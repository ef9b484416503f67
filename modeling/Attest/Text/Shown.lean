/-!
# Values shown in messages

The forms that numbers, bytes and lists take inside a message, and the filling of a column.
-/

namespace Attest

namespace Text

/-- The lower-case hexadecimal digits of a number, without leading zeros. -/
def hexDigits (n : Nat) : String :=
  String.ofList (Nat.toDigits 16 n)

/-- A byte as two hexadecimal digits behind `0x`. -/
def byteLiteral (b : UInt8) : String :=
  "0x" ++ (if b < 16 then "0" else "") ++ hexDigits b.toNat

/-- The items between brackets, a comma and a space between two of them. -/
def bracketed (items : List String) : String :=
  "[" ++ ", ".intercalate items ++ "]"

/-- The text behind as many spaces as bring it to `width` characters. -/
def padLeft (width : Nat) (s : String) : String :=
  String.ofList (List.replicate (width - s.length) ' ') ++ s

/-- The text before as many spaces as bring it to `width` characters. -/
def padRight (width : Nat) (s : String) : String :=
  s ++ String.ofList (List.replicate (width - s.length) ' ')

end Text

end Attest
