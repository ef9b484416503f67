import Attest.Hash.Block

/-!
# MD5

Clients keep modules under the MD5 digest of the compressed blob, its fingerprint.
-/

namespace Attest

namespace Md5

/-- The four chaining words. -/
structure State where
  a : UInt32
  b : UInt32
  c : UInt32
  d : UInt32
  deriving DecidableEq, Repr

/-- The state before the first block. -/
def State.initial : State :=
  ⟨0x67452301, 0xEFCDAB89, 0x98BADCFE, 0x10325476⟩

/-- The constant of round `t` is the integer part of `2 ^ 32 * |sin (t + 1)|`. -/
def sines : Array UInt32 := #[
  0xD76AA478, 0xE8C7B756, 0x242070DB, 0xC1BDCEEE, 0xF57C0FAF, 0x4787C62A, 0xA8304613, 0xFD469501,
  0x698098D8, 0x8B44F7AF, 0xFFFF5BB1, 0x895CD7BE, 0x6B901122, 0xFD987193, 0xA679438E, 0x49B40821,
  0xF61E2562, 0xC040B340, 0x265E5A51, 0xE9B6C7AA, 0xD62F105D, 0x02441453, 0xD8A1E681, 0xE7D3FBC8,
  0x21E1CDE6, 0xC33707D6, 0xF4D50D87, 0x455A14ED, 0xA9E3E905, 0xFCEFA3F8, 0x676F02D9, 0x8D2A4C8A,
  0xFFFA3942, 0x8771F681, 0x6D9D6122, 0xFDE5380C, 0xA4BEEA44, 0x4BDECFA9, 0xF6BB4B60, 0xBEBFBC70,
  0x289B7EC6, 0xEAA127FA, 0xD4EF3085, 0x04881D05, 0xD9D4D039, 0xE6DB99E5, 0x1FA27CF8, 0xC4AC5665,
  0xF4292244, 0x432AFF97, 0xAB9423A7, 0xFC93A039, 0x655B59C3, 0x8F0CCC92, 0xFFEFF47D, 0x85845DD1,
  0x6FA87E4F, 0xFE2CE6E0, 0xA3014314, 0x4E0811A1, 0xF7537E82, 0xBD3AF235, 0x2AD7D2BB, 0xEB86D391]

/-- By how many bits round `t` turns its sum. -/
def shift (t : Nat) : UInt32 :=
  let row : Array UInt32 :=
    if t < 16 then #[7, 12, 17, 22]
    else if t < 32 then #[5, 9, 14, 20]
    else if t < 48 then #[4, 11, 16, 23]
    else #[6, 10, 15, 21]
  row.getD (t % 4) 0

/-- The word of the block that round `t` takes. -/
def wordIndex (t : Nat) : Nat :=
  if t < 16 then t
  else if t < 32 then (5 * t + 1) % 16
  else if t < 48 then (3 * t + 5) % 16
  else (7 * t) % 16

/-- The mixing function of round `t`. -/
def mix (t : Nat) (b c d : UInt32) : UInt32 :=
  if t < 16 then (b &&& c) ||| (~~~b &&& d)
  else if t < 32 then (d &&& b) ||| (~~~d &&& c)
  else if t < 48 then b ^^^ c ^^^ d
  else c ^^^ (b ||| ~~~d)

/-- Round `t` over the words of a block. -/
def round (words : Array UInt32) (s : State) (t : Nat) : State :=
  let sum := s.a + mix t s.b s.c s.d + sines.getD t 0 + words.getD (wordIndex t) 0
  ⟨s.d, s.b + Hash.rotateLeft sum (shift t), s.b, s.c⟩

/-- Takes one block into the state. -/
def compress (s : State) (block : Bytes) : State :=
  let r := (List.range 64).foldl (round (Bytes.words32 block).toArray) s
  ⟨s.a + r.a, s.b + r.b, s.c + r.c, s.d + r.d⟩

/-- The digest is the state in little-endian order. -/
def State.digest (s : State) : Vector UInt8 16 :=
  ⟨(Bytes.le32 s.a ++ Bytes.le32 s.b ++ Bytes.le32 s.c ++ Bytes.le32 s.d).toArray, rfl⟩

/-- A bit count as two little-endian words. -/
def lengthBytes (bits : UInt64) : Bytes :=
  Bytes.le32 bits.toUInt32 ++ Bytes.le32 (bits >>> 32).toUInt32

/-- The MD5 digest of a message. -/
def digest (message : Bytes) : Vector UInt8 16 :=
  ((Hash.blocks lengthBytes message).foldl compress State.initial).digest

end Md5

end Attest
