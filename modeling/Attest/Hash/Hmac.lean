import Attest.Hash.Sha1

/-!
# Keyed digests

`Hmac.digest key message` is the HMAC of a message under SHA-1. A check that looks for a loaded
module never names it: it sends a fresh seed and the name's digest under that seed, and the client
compares the digest of every module it has loaded.
-/

namespace Attest

namespace Hmac

/-- A key brought to one block: hashed if longer, then filled with zeros. -/
def blockKey (key : Bytes) : Bytes :=
  let short := if key.length ≤ 64 then key else (Sha1.digest key).toList
  short ++ List.replicate (64 - short.length) 0

/-- The HMAC of a message under SHA-1. -/
def digest (key message : Bytes) : Vector UInt8 20 :=
  let k := blockKey key
  let inner := Sha1.digest (k.map (· ^^^ 0x36) ++ message)
  Sha1.digest (k.map (· ^^^ 0x5C) ++ inner.toList)

end Hmac

/-- The digest by which a challenge names a module: keyed by the seed in little-endian order. -/
def moduleDigest (seed : UInt32) (name : Bytes) : Vector UInt8 20 :=
  Hmac.digest (Bytes.le32 seed) name

end Attest
