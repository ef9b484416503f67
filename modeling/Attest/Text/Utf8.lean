import Attest.Bytes

/-!
# Text in UTF-8

`Utf8.decode?` reads a valid text and nothing else. `Utf8.scan` cuts any bytes into characters and
into the longest pieces that begin a character and are not one; the tolerant reading puts the
replacement character in the place of each such piece.
-/

namespace Attest

namespace Utf8

/-- Whether a byte can follow the first byte of a character. -/
def isTail (b : UInt8) : Bool :=
  decide (0x80 ≤ b ∧ b ≤ 0xBF)

/-- Whether `b` can be the second byte of a character of three bytes that begins with `first`.
Short forms of smaller characters and surrogates are left out. -/
def isSecondOfThree (first b : UInt8) : Bool :=
  if first = 0xE0 then decide (0xA0 ≤ b ∧ b ≤ 0xBF)
  else if first = 0xED then decide (0x80 ≤ b ∧ b ≤ 0x9F)
  else decide (0xE1 ≤ first ∧ first ≤ 0xEF) && isTail b

/-- Whether `b` can be the second byte of a character of four bytes that begins with `first`. -/
def isSecondOfFour (first b : UInt8) : Bool :=
  if first = 0xF0 then decide (0x90 ≤ b ∧ b ≤ 0xBF)
  else if first = 0xF4 then decide (0x80 ≤ b ∧ b ≤ 0x8F)
  else decide (0xF1 ≤ first ∧ first ≤ 0xF3) && isTail b

/-- The low six bits of a byte. -/
def tailBits (b : UInt8) : Nat :=
  b.toNat % 64

/-- The piece at the start of the bytes, with its length: a character, or none. -/
def first (b : UInt8) (rest : Bytes) : Option Char × Nat :=
  if b < 0x80 then (some (Char.ofNat b.toNat), 1)
  else
    match rest with
    | b₁ :: rest =>
      if 0xC2 ≤ b ∧ b ≤ 0xDF ∧ isTail b₁ then
        (some (Char.ofNat (b.toNat % 32 * 64 + tailBits b₁)), 2)
      else if isSecondOfThree b b₁ then
        match rest with
        | b₂ :: _ =>
          if isTail b₂ then
            (some (Char.ofNat (b.toNat % 16 * 4096 + tailBits b₁ * 64 + tailBits b₂)), 3)
          else (none, 2)
        | [] => (none, 2)
      else if isSecondOfFour b b₁ then
        match rest with
        | b₂ :: rest =>
          if isTail b₂ then
            match rest with
            | b₃ :: _ =>
              if isTail b₃ then
                (some (Char.ofNat (b.toNat % 8 * 262144 + tailBits b₁ * 4096
                  + tailBits b₂ * 64 + tailBits b₃)), 4)
              else (none, 3)
            | [] => (none, 3)
          else (none, 2)
        | [] => (none, 2)
      else (none, 1)
    | [] => (none, 1)

/-- The pieces of the bytes; the first `skip` bytes belong to a piece that is counted already. -/
def scanFrom (skip : Nat) : Bytes → List (Option Char)
  | [] => []
  | b :: rest =>
    match skip with
    | skip + 1 => scanFrom skip rest
    | 0 =>
      let (piece, length) := first b rest
      piece :: scanFrom (length - 1) rest

/-- The pieces of the bytes, in order. -/
def scan (b : Bytes) : List (Option Char) :=
  scanFrom 0 b

/-- The text that the bytes spell, if they are valid. -/
def decode? (b : Bytes) : Option String :=
  String.fromUTF8? ⟨b.toArray⟩

/-- The text with a replacement character for each piece that is none. -/
def decodeTolerant (b : Bytes) : String :=
  String.ofList ((scan b).map (·.getD '\uFFFD'))

end Utf8

end Attest
