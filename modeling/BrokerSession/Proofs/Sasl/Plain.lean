import BrokerSession.Proofs.Text.Utf8
import BrokerSession.Sasl.Client

namespace BrokerSession

/-!
# Whom a PLAIN token speaks for

A server cuts the token at its zero bytes.  The texts of a token are written as
they are, so they are recovered exactly when no text holds the null character;
otherwise there is another subject with the same token.
-/

/-- What a token of PLAIN tells a server. -/
structure PlainMessage where
  authorizationId : String
  username : String
  password : String
  deriving Repr, DecidableEq

namespace PlainMessage

/-- The client that sends the message. -/
def client (message : PlainMessage) : PlainClient where
  authorizationId := some message.authorizationId
  username := message.username
  password := message.password

/-- The texts of a message in the order in which they are sent. -/
def fields (message : PlainMessage) : List String :=
  [message.authorizationId, message.username, message.password]

/-- No text holds the character that stands between the texts. -/
def IsSeparable (message : PlainMessage) : Prop :=
  ∀ field ∈ message.fields, Char.ofNat 0 ∉ field.toList

instance (message : PlainMessage) : Decidable message.IsSeparable :=
  inferInstanceAs
    (Decidable (∀ field ∈ message.fields, Char.ofNat 0 ∉ field.toList))

/-- Read a token as three texts with zero bytes between them. -/
def read? (token : Bytes) : Option PlainMessage :=
  match token.splitOn 0 with
  | [authorizationId, username, password] => do
      let authorizationId ← Bytes.toString? authorizationId
      let username ← Bytes.toString? username
      let password ← Bytes.toString? password
      return { authorizationId, username, password }
  | _ => none

/-! ## Cutting a token -/

theorem token_client (message : PlainMessage) :
    message.client.token =
      Bytes.ofString message.authorizationId ++
        0 :: (Bytes.ofString message.username ++
          0 :: Bytes.ofString message.password) :=
  List.append_assoc _ _ _

/-- The pieces of a token are the pieces of its texts. -/
theorem splitOn_token (message : PlainMessage) :
    message.client.token.splitOn 0 =
      message.fields.flatMap fun field => (Bytes.ofString field).splitOn 0 := by
  rw [token_client, List.splitOn_append_cons_self,
    List.splitOn_append_cons_self]
  simp [fields]

/-- A text without a null character is a single piece. -/
theorem splitOn_ofString {field : String}
    (separable : Char.ofNat 0 ∉ field.toList) :
    (Bytes.ofString field).splitOn 0 = [Bytes.ofString field] :=
  List.splitOn_eq_singleton
    (fun zero => separable (Bytes.zero_mem_ofString_iff.mp zero))

/-- A text with a null character is at least two pieces. -/
theorem one_lt_length_splitOn {field : String}
    (null : Char.ofNat 0 ∈ field.toList) :
    1 < ((Bytes.ofString field).splitOn 0).length := by
  obtain ⟨before, after, cut⟩ :=
    List.append_of_mem (Bytes.zero_mem_ofString_iff.mpr null)
  have first := List.length_pos_iff.mpr (List.splitOn_ne_nil 0 before)
  have second := List.length_pos_iff.mpr (List.splitOn_ne_nil 0 after)
  rw [cut, List.splitOn_append_cons_self, List.length_append]
  omega

theorem exists_null_of_not_isSeparable {message : PlainMessage}
    (ambiguous : ¬ message.IsSeparable) :
    ∃ field ∈ message.fields, Char.ofNat 0 ∈ field.toList := by
  simpa [IsSeparable] using ambiguous

/-- A message that is not separable has more pieces than texts. -/
theorem three_lt_length_splitOn_token {message : PlainMessage}
    (ambiguous : ¬ message.IsSeparable) :
    3 < (message.client.token.splitOn 0).length := by
  have nonempty (field : String) :
      0 < ((Bytes.ofString field).splitOn 0).length :=
    List.length_pos_iff.mpr (List.splitOn_ne_nil 0 _)
  have first := nonempty message.authorizationId
  have second := nonempty message.username
  have third := nonempty message.password
  obtain ⟨field, listed, null⟩ := exists_null_of_not_isSeparable ambiguous
  have cut := one_lt_length_splitOn null
  rw [splitOn_token]
  simp only [fields, List.mem_cons, List.not_mem_nil, or_false,
    List.flatMap_cons, List.flatMap_nil, List.length_append,
    List.length_nil] at listed ⊢
  rcases listed with rfl | rfl | rfl <;> omega

theorem read?_eq_none {token : Bytes}
    (pieces : 3 < (token.splitOn 0).length) : read? token = none := by
  unfold read?
  split
  · next three =>
      rw [three] at pieces
      exact (Nat.lt_irrefl 3 pieces).elim
  · rfl

/-- A message is read back from its token unless it is not separable. -/
theorem read?_token (message : PlainMessage) :
    read? message.client.token =
      if message.IsSeparable then some message else none := by
  split
  · next separable =>
      have cut : message.client.token.splitOn 0 =
          [Bytes.ofString message.authorizationId,
            Bytes.ofString message.username,
            Bytes.ofString message.password] := by
        simp only [IsSeparable, fields, List.forall_mem_cons] at separable
        obtain ⟨first, second, third, -⟩ := separable
        rw [splitOn_token]
        simp only [fields, List.flatMap_cons, List.flatMap_nil,
          splitOn_ofString first, splitOn_ofString second,
          splitOn_ofString third, List.cons_append, List.nil_append]
      simp [read?, cut]
  · next ambiguous =>
      exact read?_eq_none (three_lt_length_splitOn_token ambiguous)

/-! ## Whom a token speaks for -/

/-- No other message has the token of a separable one. -/
theorem IsSeparable.eq_of_token_eq {message other : PlainMessage}
    (separable : message.IsSeparable)
    (same : other.client.token = message.client.token) : other = message := by
  have read := read?_token message
  rw [if_pos separable, ← same, read?_token other] at read
  split at read
  · exact Option.some.inj read
  · cases read

/--
A null character in a text of a message is taken for the end of the text: what
follows it goes to the next text, and the texts after that are run together.
-/
theorem exists_ne_token_eq {message : PlainMessage}
    (ambiguous : ¬ message.IsSeparable) :
    ∃ other, other ≠ message ∧
      other.client.token = message.client.token := by
  obtain ⟨field, listed, null⟩ := exists_null_of_not_isSeparable ambiguous
  obtain ⟨before, after, shorter, later, cut⟩ :=
    Bytes.exists_ofString_append_zero_eq null
  simp only [fields, List.mem_cons, List.not_mem_nil, or_false] at listed
  rcases listed with rfl | rfl | rfl
  · obtain ⟨joined, join⟩ :=
      Bytes.exists_ofString_eq_append_zero message.username message.password
    refine ⟨⟨before, after, joined⟩, ?_, ?_⟩
    · exact fun same => shorter (congrArg authorizationId same)
    · rw [token_client, token_client, ← cut, join, List.append_assoc]
      rfl
  · obtain ⟨joined, join⟩ :=
      Bytes.exists_ofString_eq_append_zero after message.password
    refine ⟨⟨message.authorizationId, before, joined⟩, ?_, ?_⟩
    · exact fun same => shorter (congrArg username same)
    · rw [token_client, token_client, ← cut, join, List.append_assoc]
      rfl
  · obtain ⟨joined, join⟩ :=
      Bytes.exists_ofString_eq_append_zero message.username before
    refine ⟨⟨message.authorizationId, joined, after⟩, ?_, ?_⟩
    · exact fun same => later (congrArg password same)
    · rw [token_client, token_client, ← cut, join, List.append_assoc]
      rfl

end PlainMessage

namespace Subject

/-- PLAIN sends the token for the subject. -/
def SendsPlain (subject : Subject) (token : Bytes) : Prop :=
  ∃ entropy client challenge next,
    SaslClient.create "PLAIN" subject entropy = .ok client ∧
      Mechanism.evaluate client challenge = (.ok (some token), next)

/-- What PLAIN says for the subject; no identity to act as is an empty one. -/
def plainMessage? (subject : Subject) : Option PlainMessage :=
  subject.credential.map fun { username, password } =>
    { authorizationId := subject.authorizationId.getD "", username, password }

/-- A subject with a credential has one token, and no other subject has any. -/
theorem sendsPlain_iff {subject : Subject} {token : Bytes} :
    subject.SendsPlain token ↔
      ∃ message, subject.plainMessage? = some message ∧
        message.client.token = token := by
  obtain ⟨principal, authorizationId, credential⟩ := subject
  cases credential with
  | none =>
      constructor
      · rintro ⟨_, _, _, _, created, _⟩
        cases created
      · rintro ⟨_, told, _⟩
        cases told
  | some credential =>
      constructor
      · rintro ⟨_, _, _, _, created, evaluated⟩
        cases created
        cases evaluated
        exact ⟨_, rfl, rfl⟩
      · rintro ⟨_, told, written⟩
        cases told
        cases written
        exact ⟨[], _, [], _, rfl, rfl⟩

/--
The token of a subject tells a server who the subject is exactly when no text
holds a null character.  Then every subject with this token has the same
identity to act as, the same username and the same password, and these are what
the server reads.  Otherwise the token is also that of a subject with other
texts, and it does not have the three texts that a server looks for.
-/
theorem SendsPlain.identifies_iff {subject : Subject} {token : Bytes}
    (sends : subject.SendsPlain token) :
    ∃ message, subject.plainMessage? = some message ∧
      ((∀ other : Subject, other.SendsPlain token →
          other.plainMessage? = some message) ↔ message.IsSeparable) ∧
      PlainMessage.read? token =
        if message.IsSeparable then some message else none := by
  obtain ⟨message, told, rfl⟩ := sendsPlain_iff.mp sends
  refine ⟨message, told, ⟨fun identifies => ?_, fun separable => ?_⟩,
    PlainMessage.read?_token message⟩
  · refine Decidable.byContradiction fun ambiguous => ?_
    obtain ⟨confused, different, same⟩ :=
      PlainMessage.exists_ne_token_eq ambiguous
    let other :=
      (ofPassword confused.username confused.password).actingAs
        confused.authorizationId
    have told : other.plainMessage? = some confused := rfl
    have identified :=
      identifies other (sendsPlain_iff.mpr ⟨confused, told, same⟩)
    exact different (Option.some.inj (told.symm.trans identified))
  · intro other otherSends
    obtain ⟨confused, otherTold, same⟩ := sendsPlain_iff.mp otherSends
    rw [otherTold, separable.eq_of_token_eq same]

/-- Alice acts as the administrator. -/
theorem identifies_iff_of_alice :
    let subject := (ofPassword "alice" "secret").actingAs "admin"
    let token := Bytes.ofString "admin" ++
      0 :: (Bytes.ofString "alice" ++ 0 :: Bytes.ofString "secret")
    subject.SendsPlain token ∧
      ∃ message, subject.plainMessage? = some message ∧
        ((∀ other : Subject, other.SendsPlain token →
            other.plainMessage? = some message) ↔ message.IsSeparable) ∧
        PlainMessage.read? token =
          if message.IsSeparable then some message else none := by
  intro subject token
  have sends : subject.SendsPlain token :=
    sendsPlain_iff.mpr ⟨⟨"admin", "alice", "secret"⟩, rfl, rfl⟩
  exact ⟨sends, sends.identifies_iff⟩

/-- Two users with one token, which a server does not understand. -/
theorem sendsPlain_of_ambiguous :
    let first := ofPassword "a\x00b" "c"
    let second := ofPassword "a" "b\x00c"
    let token : Bytes := [0, 97, 0, 98, 0, 99]
    first.SendsPlain token ∧ second.SendsPlain token ∧
      first.plainMessage? ≠ second.plainMessage? ∧
      PlainMessage.read? token = none := by
  refine ⟨?_, ?_, ?_, rfl⟩
  · exact sendsPlain_iff.mpr ⟨⟨"", "a\x00b", "c"⟩, rfl, rfl⟩
  · exact sendsPlain_iff.mpr ⟨⟨"", "a", "b\x00c"⟩, rfl, rfl⟩
  · decide

end Subject

end BrokerSession
