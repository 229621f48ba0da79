import BrokerSession.Digest.Sha2

namespace BrokerSession.Digest

/-!
# Keyed digests and derived keys

HMAC digests a message twice, each time behind a block made from the key.  Both
blocks enter the digest once per key, so that a key which is used thousands of
times, as in key derivation, costs two compressions a use.
-/

/-- A key whose two blocks have entered the digest. -/
structure HmacKey (W : Type) where
  inner : Chaining W
  outer : Chaining W

/-- Bring a key to the length of a block, digesting a longer one first. -/
@[specialize] def keyBlock (W : Type) [Word W] (key : Bytes) : Bytes :=
  let short := if blockLength W < key.length then sha2 W key else key
  short ++ List.replicate (blockLength W - short.length) 0

/-- Let the blocks of a key enter the digest. -/
@[specialize] def HmacKey.ofBytes (W : Type) [Word W] (key : Bytes) :
    HmacKey W :=
  let block := keyBlock W key
  { inner := absorb 1 (block.map (· ^^^ 0x36)) (initial W)
    outer := absorb 1 (block.map (· ^^^ 0x5c)) (initial W) }

/-- The keyed digest of a message. -/
@[specialize] def HmacKey.digest {W : Type} [Word W]
    (key : HmacKey W) (message : Bytes) : Bytes :=
  finish key.outer (blockLength W) (finish key.inner (blockLength W) message)

/-- The HMAC of a message under a key, at a word width. -/
@[specialize] def hmac (W : Type) [Word W] (key message : Bytes) : Bytes :=
  (HmacKey.ofBytes W key).digest message

/-- Exclusive-or of two byte strings, as long as the shorter one. -/
def xorBytes (left right : Bytes) : Bytes :=
  List.zipWith (· ^^^ ·) left right

/-- Digest the last value again and again, adding every value to the key. -/
@[specialize] def stretch (digest : Bytes → Bytes) : Nat → Bytes → Bytes → Bytes
  | 0, _, derived => derived
  | rounds + 1, last, derived =>
      let next := digest last
      stretch digest rounds next (xorBytes derived next)

/--
The key derived from a password and a salt by PBKDF2 over HMAC, as long as one
digest: its first and only block.
-/
@[specialize] def pbkdf2 (W : Type) [Word W]
    (password salt : Bytes) (iterations : Nat) : Bytes :=
  let key := HmacKey.ofBytes W password
  let first := key.digest (salt ++ Bytes.bigEndian 4 1)
  stretch key.digest (iterations - 1) first first

end BrokerSession.Digest
