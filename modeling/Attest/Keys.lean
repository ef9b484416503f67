import Attest.Hash.Sha1

/-!
# Session keys

The secret agreed at login is spread into key bytes. With `left` and `right` the digests of its
two halves, the blocks are `B 0 = 0 …` and `B (k + 1) = SHA1 (left ++ B k ++ right)`, and the key
bytes are the blocks from `B 1` on, one after the other. The first sixteen are the key for what
the client sends, the next sixteen the key for what the server sends.
-/

namespace Attest

/-- A key of the session ciphers. -/
abbrev Key := Vector UInt8 16

/-- A place in the key bytes of a secret. -/
structure KeySchedule where
  /-- The digest of the secret's first half. -/
  left : Vector UInt8 20
  /-- The digest of the secret's second half. -/
  right : Vector UInt8 20
  /-- The current block. -/
  block : Vector UInt8 20
  /-- How many bytes of the block are used up. -/
  taken : Nat
  deriving DecidableEq

namespace KeySchedule

/-- The block that follows `block`. -/
def nextBlock (left right block : Vector UInt8 20) : Vector UInt8 20 :=
  Sha1.digest (left.toList ++ block.toList ++ right.toList)

/-- The start of the key bytes of a secret. Of an odd secret the first half is the shorter one. -/
def ofSecret (secret : Bytes) : KeySchedule :=
  let half := secret.length / 2
  let left := Sha1.digest (secret.take half)
  let right := Sha1.digest (secret.drop half)
  ⟨left, right, nextBlock left right (Vector.replicate 20 0), 0⟩

/-- The next byte. A used-up block is replaced only when a byte is needed. -/
def next (s : KeySchedule) : UInt8 × KeySchedule :=
  let s := if s.taken = 20 then { s with block := nextBlock s.left s.right s.block, taken := 0 }
    else s
  (s.block.toList.getD s.taken 0, { s with taken := s.taken + 1 })

/-- The next `n` bytes. -/
def take (s : KeySchedule) : Nat → Bytes × KeySchedule
  | 0 => ([], s)
  | n + 1 =>
    let (byte, s) := s.next
    let (rest, s) := s.take n
    (byte :: rest, s)

theorem length_take (s : KeySchedule) (n : Nat) : (s.take n).1.length = n := by
  induction n generalizing s with
  | zero => rfl
  | succ n ih => simp [take, ih]

/-- The next sixteen bytes. -/
def nextKey (s : KeySchedule) : Key × KeySchedule :=
  (⟨(s.take 16).1.toArray, by simp [length_take]⟩, (s.take 16).2)

end KeySchedule

/-- The keys of a session and the seed that travels with them. -/
structure Keys where
  /-- The key for what the client sends. -/
  inbound : Key
  /-- The key for what the server sends. -/
  outbound : Key
  /-- The seed of the hash request. -/
  seed : Key
  deriving DecidableEq

namespace Keys

/-- The keys of a secret; there are none for an empty one. -/
def derive? (secret : Bytes) (seed : Key) : Option Keys :=
  if secret = [] then none
  else
    let (inbound, schedule) := (KeySchedule.ofSecret secret).nextKey
    let (outbound, _) := schedule.nextKey
    some ⟨inbound, outbound, seed⟩

/-- The byte that masks the tags of a challenge. -/
def tagMask (keys : Keys) : UInt8 :=
  keys.inbound[0]

/-- The same seed under new keys. -/
def rotate (keys : Keys) (inbound outbound : Key) : Keys :=
  { keys with inbound, outbound }

end Keys

end Attest
