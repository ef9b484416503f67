import Attest.Text.Hidden
import Attest.Text.Shown

/-!
# Quoted text

A quoted text is one that a reader of a log can copy: the quote, the backslash and the usual
control characters are escaped, and a character that would not be seen on its own is written as
its code point.
-/

namespace Attest

namespace Text

/-- One character inside quotes of the kind `quote`. -/
def escaped (quote c : Char) : String :=
  if c = '\x00' then "\\0"
  else if c = '\t' then "\\t"
  else if c = '\n' then "\\n"
  else if c = '\r' then "\\r"
  else if c = quote ∨ c = '\\' then "\\" ++ c.toString
  else if isHidden c then "\\u\x7b" ++ hexDigits c.toNat ++ "\x7d"
  else c.toString

/-- A text in double quotes. -/
def quoted (s : String) : String :=
  "\"" ++ String.join (s.toList.map (escaped '"')) ++ "\""

/-- A character in single quotes. -/
def quotedChar (c : Char) : String :=
  "'" ++ escaped '\'' c ++ "'"

end Text

end Attest
