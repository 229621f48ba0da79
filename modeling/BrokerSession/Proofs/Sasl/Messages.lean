import BrokerSession.Proofs.Sasl.Acceptance
import BrokerSession.Proofs.Sasl.Server
import BrokerSession.Proofs.Text.Base64
import BrokerSession.Proofs.Text.Decimal

namespace BrokerSession.Scram

/-!
# The attributes of honest messages

Every message of an honest exchange consists of the attributes that it was made
from: the names are escaped, numbers and keys are written without commas, and
the nonces have none.
-/

/-- Attributes without separators are read off the message they make. -/
theorem lists_intercalate {listed : List Attribute} (nonempty : listed ≠ [])
    (keys : ∀ entry ∈ listed, entry.1 ≠ '=' ∧ entry.1 ≠ ',')
    (values : ∀ entry ∈ listed, ',' ∉ entry.2) :
    Lists ([','].intercalate (listed.map Attribute.part)) listed where
  parts := by
    refine List.splitOn_intercalate ',' ?_ (by simpa using nonempty)
    intro part isPart
    obtain ⟨entry, isEntry, rfl⟩ := List.mem_map.mp isPart
    simp only [Attribute.part, List.mem_cons, not_or]
    exact ⟨(keys entry isEntry).2.symm, by decide, values entry isEntry⟩
  keys := fun entry isEntry => (keys entry isEntry).1

/-- An escaped name has no comma. -/
theorem not_mem_escape (name : List Char) : ',' ∉ escape name := by
  rw [escape, List.mem_flatMap]
  rintro ⟨char, -, member⟩
  unfold escapeChar at member
  split at member
  · exact absurd member (by decide)
  · split at member
    · exact absurd member (by decide)
    · next notComma =>
        exact notComma (List.mem_singleton.mp member).symm

/-- The first message lists the escaped name and the nonce. -/
theorem lists_clientFirstBare (username : String) {nonce : String}
    (separate : ',' ∉ nonce.toList) :
    Lists (clientFirstBare username nonce)
      [('n', escape username.toList), ('r', nonce.toList)] := by
  have lists :=
    lists_intercalate (List.cons_ne_nil ('n', escape username.toList)
      [('r', nonce.toList)]) (by simp) (by simp [not_mem_escape, separate])
  unfold clientFirstBare
  simpa [List.intercalate_cons_cons, Attribute.part] using lists

/-- The server's first message lists nonce, salt and iterations. -/
theorem lists_serverFirst {nonce : List Char} (separate : ',' ∉ nonce)
    (salt : Bytes) (iterations : UInt32) :
    Lists (serverFirst nonce salt iterations)
      [('r', nonce), ('s', Text.base64Encode salt),
        ('i', Nat.toDigits 10 iterations.toNat)] := by
  have noComma := Text.not_mem_toDigits (by decide : ','.isDigit = false)
    iterations.toNat
  have lists :=
    lists_intercalate (List.cons_ne_nil ('r', nonce)
      [('s', Text.base64Encode salt),
        ('i', Nat.toDigits 10 iterations.toNat)]) (by simp)
      (by simp [separate, noComma, Text.not_mem_base64Encode])
  unfold serverFirst
  simpa [List.intercalate_cons_cons, Attribute.part] using lists

/-- The final message lists channel binding, nonce and proof. -/
theorem lists_clientFinal {nonce : List Char} (separate : ',' ∉ nonce)
    (proof : Bytes) :
    Lists (clientFinal (clientFinalBare nonce) proof)
      [('c', ['b', 'i', 'w', 's']), ('r', nonce),
        ('p', Text.base64Encode proof)] := by
  have lists :=
    lists_intercalate (List.cons_ne_nil ('c', ['b', 'i', 'w', 's'])
      [('r', nonce), ('p', Text.base64Encode proof)]) (by simp)
      (by simp [separate, Text.not_mem_base64Encode])
  unfold clientFinal clientFinalBare
  simpa [List.intercalate_cons_cons, Attribute.part] using lists

/-- The server's final message lists its signature. -/
theorem lists_serverFinal (signature : Bytes) :
    Lists (serverFinal signature) [('v', Text.base64Encode signature)] := by
  have lists :=
    lists_intercalate (List.cons_ne_nil ('v', Text.base64Encode signature) [])
      (by simp) (by simp [Text.not_mem_base64Encode])
  unfold serverFinal
  simpa [Attribute.part] using lists

end BrokerSession.Scram
