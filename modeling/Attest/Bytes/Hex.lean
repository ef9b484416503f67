import Attest.Bytes
import Attest.Text.Quoted

/-!
# Hexadecimal text

`Hex.encode` writes two lower-case digits a byte. `Hex.decode` reads digits of either case; the
digits are counted before they are looked at, so an odd count is reported first.
-/

namespace Attest

namespace Hex

/-- Why a text is not hexadecimal. -/
inductive Fault where
  /-- The number of digits is odd. -/
  | oddLength
  /-- A byte that is no digit, and where it stands. -/
  | badDigit (byte : UInt8) (position : Nat)
  deriving DecidableEq, Repr

/-- The byte is shown as the character with that code point. -/
def Fault.message : Fault → String
  | .oddLength => "Odd number of digits"
  | .badDigit byte position =>
    "Invalid character " ++ Text.quotedChar (Char.ofNat byte.toNat)
      ++ " at position " ++ toString position

/-- The digit of a value below sixteen. -/
def digit (n : Nat) : Char :=
  if n < 10 then Char.ofNat (48 + n) else Char.ofNat (87 + n)

/-- The value of an ASCII digit of either case. -/
def digitValue? (b : UInt8) : Option UInt8 :=
  if 48 ≤ b ∧ b ≤ 57 then some (b - 48)
  else if 97 ≤ b ∧ b ≤ 102 then some (b - 87)
  else if 65 ≤ b ∧ b ≤ 70 then some (b - 55)
  else none

/-- The two digits of a byte, the high one first. -/
def encodeByte (b : UInt8) : List Char :=
  [digit (b.toNat / 16), digit (b.toNat % 16)]

/-- Two lower-case digits a byte. -/
def encode (b : Bytes) : String :=
  String.ofList (b.flatMap encodeByte)

/-- Reads the digits in pairs, `position` being that of the first. -/
def decodePairs (position : Nat) : Bytes → Except Fault Bytes
  | high :: low :: rest =>
    match digitValue? high, digitValue? low with
    | none, _ => .error (.badDigit high position)
    | some _, none => .error (.badDigit low (position + 1))
    | some h, some l => (decodePairs (position + 2) rest).map ((h * 16 + l) :: ·)
  | _ => .ok []

/-- The bytes that a text spells. Positions count bytes of the text's UTF-8 form. -/
def decode (text : String) : Except Fault Bytes :=
  let digits := Bytes.ofString text
  if digits.length % 2 = 1 then .error .oddLength else decodePairs 0 digits

end Hex

end Attest
