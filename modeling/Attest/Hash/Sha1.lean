import Attest.Hash.Block

/-!
# SHA-1

The digest is the last state of a fold over the blocks of the message. The checksum of a payload
is the exclusive or of the digest's five words, each read in little-endian order.
-/

namespace Attest

namespace Sha1

/-- The five chaining words. -/
structure State where
  a : UInt32
  b : UInt32
  c : UInt32
  d : UInt32
  e : UInt32
  deriving DecidableEq, Repr

/-- The state before the first block. -/
def State.initial : State :=
  ⟨0x67452301, 0xEFCDAB89, 0x98BADCFE, 0x10325476, 0xC3D2E1F0⟩

/-- The big-endian words of a block. -/
def blockWords : Bytes → List UInt32
  | b₀ :: b₁ :: b₂ :: b₃ :: rest => Bytes.word32 b₃ b₂ b₁ b₀ :: blockWords rest
  | _ => []

/-- Extends the sixteen words of a block by `n` further ones. -/
def schedule (words : Array UInt32) : Nat → Array UInt32
  | 0 => words
  | n + 1 =>
    let w := schedule words n
    let t := w.size
    w.push (Hash.rotateLeft
      (w.getD (t - 3) 0 ^^^ w.getD (t - 8) 0 ^^^ w.getD (t - 14) 0 ^^^ w.getD (t - 16) 0) 1)

/-- The mixing function and the constant of round `t`. -/
def mix (t : Nat) (b c d : UInt32) : UInt32 :=
  if t < 20 then ((b &&& c) ||| (~~~b &&& d)) + 0x5A827999
  else if t < 40 then (b ^^^ c ^^^ d) + 0x6ED9EBA1
  else if t < 60 then ((b &&& c) ||| (b &&& d) ||| (c &&& d)) + 0x8F1BBCDC
  else (b ^^^ c ^^^ d) + 0xCA62C1D6

/-- Round `t` with the word `w`. -/
def round (s : State) (t : Nat) (w : UInt32) : State :=
  ⟨Hash.rotateLeft s.a 5 + mix t s.b s.c s.d + s.e + w, s.a, Hash.rotateLeft s.b 30, s.c, s.d⟩

/-- The rounds from round `t` on. -/
def rounds (s : State) (t : Nat) : List UInt32 → State
  | [] => s
  | w :: rest => rounds (round s t w) (t + 1) rest

/-- Takes one block into the state. -/
def compress (s : State) (block : Bytes) : State :=
  let r := rounds s 0 (schedule (blockWords block).toArray 64).toList
  ⟨s.a + r.a, s.b + r.b, s.c + r.c, s.d + r.d, s.e + r.e⟩

/-- The digest is the state in big-endian order. -/
def State.digest (s : State) : Vector UInt8 20 :=
  ⟨(Bytes.be32 s.a ++ Bytes.be32 s.b ++ Bytes.be32 s.c ++ Bytes.be32 s.d
    ++ Bytes.be32 s.e).toArray, rfl⟩

/-- A bit count as two big-endian words. -/
def lengthBytes (bits : UInt64) : Bytes :=
  Bytes.be32 (bits >>> 32).toUInt32 ++ Bytes.be32 bits.toUInt32

/-- The SHA-1 digest of a message. -/
def digest (message : Bytes) : Vector UInt8 20 :=
  ((Hash.blocks lengthBytes message).foldl compress State.initial).digest

end Sha1

/-- The checksum that covers a payload: its SHA-1 digest folded to one word. -/
def checksum (payload : Bytes) : UInt32 :=
  (Bytes.words32 (Sha1.digest payload).toList).foldl (· ^^^ ·) 0

end Attest
