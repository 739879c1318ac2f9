import Gatehouse.Crypto.Sha256

/-!
# Keyed hashes

The hash of a message under a key: the key, brought to the length of a block, is mixed into an inner
and an outer hash with two different masks.
-/

namespace Gatehouse.Hmac

def blockLength : Nat := 64

/-- A key of the length of a block: longer ones are hashed, shorter ones filled up with zeros. -/
def blockKey (key : Bytes) : Bytes :=
  let k := if key.length > blockLength then Sha256.hash key else key
  k ++ List.replicate (blockLength - k.length) 0

def sha256 (key message : Bytes) : Bytes :=
  let k := blockKey key
  let inner := Sha256.hash (k.map (· ^^^ 0x36) ++ message)
  Sha256.hash (k.map (· ^^^ 0x5c) ++ inner)

end Gatehouse.Hmac
