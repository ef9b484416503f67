import Attest.Bytes

/-!
# Messages in blocks

A hash takes its message in blocks of 64 bytes. The message is closed with the byte `0x80`, with
as many zeros as bring the last block to 56 bytes, and with eight bytes that tell its length in
bits.
-/

namespace Attest

namespace Hash

/-- The word turned left by `n` bits, for `0 < n < 32`. -/
def rotateLeft (w n : UInt32) : UInt32 :=
  (w <<< n) ||| (w >>> (32 - n))

/-- The number of zeros between the closing byte and the length. -/
def zeroCount (length : Nat) : Nat :=
  (119 - length % 64) % 64

/-- The blocks of a closed message; `lengthBytes` writes its
length in bits. -/
def blocks (lengthBytes : UInt64 → Bytes) (message : Bytes) : List Bytes :=
  let zeros := List.replicate (zeroCount message.length) 0
  Bytes.chunks 64
    (message ++ 0x80 :: (zeros ++ lengthBytes (8 * message.length).toUInt64))

end Hash

end Attest
