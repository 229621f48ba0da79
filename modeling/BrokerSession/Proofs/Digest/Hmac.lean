import BrokerSession.Digest.Hmac

namespace BrokerSession.Digest

/-!
# Keyed digests as keys

All digests of one word width are equally long, so a key that was hidden by a
digest comes out whole when the same digest is applied once more.
-/

/-- A digest is the wire form of eight words. -/
theorem length_finish {W : Type} [Word W]
    (sized : ∀ word : W, (Word.toBytes word).length = Word.width W)
    (words : Chaining W) (absorbed : Nat) (rest : Bytes) :
    (finish words absorbed rest).length = 8 * Word.width W := by
  rw [finish]
  simp only [Chaining.toList, List.flatMap_cons, List.flatMap_nil,
    List.length_append, List.length_nil, sized]
  omega

theorem length_hmac32 (key message : Bytes) :
    (hmac UInt32 key message).length = 32 := by
  rw [hmac, HmacKey.digest]
  exact length_finish (fun word => Bytes.length_bigEndian 4 word.toNat) _ _ _

theorem length_hmac64 (key message : Bytes) :
    (hmac UInt64 key message).length = 64 := by
  rw [hmac, HmacKey.digest]
  exact length_finish (fun word => Bytes.length_bigEndian 8 word.toNat) _ _ _

/-- A mask that covers a byte string gives it back when applied twice. -/
theorem xorBytes_xorBytes {content mask : Bytes}
    (covered : content.length ≤ mask.length) :
    xorBytes (xorBytes content mask) mask = content := by
  induction content generalizing mask with
  | nil =>
      rfl
  | cons byte rest inductionHypothesis =>
      cases mask with
      | nil =>
          cases covered
      | cons cover others =>
          have restored := inductionHypothesis (Nat.le_of_succ_le_succ covered)
          rw [xorBytes, xorBytes, List.zipWith_cons_cons,
            List.zipWith_cons_cons, UInt8.xor_assoc, UInt8.xor_self,
            UInt8.xor_zero]
          exact congrArg (byte :: ·) restored

end BrokerSession.Digest
