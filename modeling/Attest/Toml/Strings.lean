import Attest.Toml.Scan

/-!
# Strings

There are four forms: in double quotes, where a backslash starts an escape, and in single quotes,
where nothing does; each on one line, or between three quotes over several. In the forms over
several lines a line end counts as one newline however it is written, one right behind the opening
quotes does not count, and one or two quotes may stand anywhere, even right before the closing
three. A backslash at the end of a line joins it to the next text.
-/

namespace Attest

namespace Toml

namespace Scan

/-- The value of a hexadecimal digit. -/
def hexValue? (c : Char) : Option Nat :=
  if '0' ≤ c ∧ c ≤ '9' then some (c.toNat - 48)
  else if 'a' ≤ c ∧ c ≤ 'f' then some (c.toNat - 87)
  else if 'A' ≤ c ∧ c ≤ 'F' then some (c.toNat - 55)
  else none

/-- The character with the code point that `n` hexadecimal digits spell. -/
def codePoint (n : Nat) : Scan Char := fun s =>
  let digits := s.take n
  if digits.length = n then do
    let values ← digits.mapM hexValue?
    let code := values.foldl (fun code value => code * 16 + value) 0
    if code.isValidChar then some (Char.ofNat code, s.drop n) else none
  else none

/-- The character of an escape, behind its backslash. -/
def escape : Scan Char
  | 'b' :: rest => some ('\x08', rest)
  | 't' :: rest => some ('\t', rest)
  | 'n' :: rest => some ('\n', rest)
  | 'f' :: rest => some ('\x0c', rest)
  | 'r' :: rest => some ('\r', rest)
  | '"' :: rest => some ('"', rest)
  | '\\' :: rest => some ('\\', rest)
  | 'u' :: rest => codePoint 4 rest
  | 'U' :: rest => codePoint 8 rest
  | _ => none

/-- Whether a character may stand for itself in a string. -/
def isPlain (c : Char) : Bool :=
  c = '\t' ∨ (' ' ≤ c ∧ c ≠ '\x7f')

/-- The text that characters spell, the last one first. -/
def text (reversed : List Char) : String :=
  String.ofList reversed.reverse

/-- A string on one line, behind its double quote. -/
def basicLine : Scan String :=
  iterate [] fun found s =>
    match s with
    | '"' :: rest => .done (text found) rest
    | '\\' :: rest =>
      match escape rest with
      | some (c, rest) => .more (c :: found) rest
      | none => .fail
    | c :: rest => if isPlain c then .more (c :: found) rest else .fail
    | [] => .fail

/-- A string on one line, behind its single quote. -/
def literalLine : Scan String :=
  iterate [] fun found s =>
    match s with
    | '\'' :: rest => .done (text found) rest
    | c :: rest => if isPlain c then .more (c :: found) rest else .fail
    | [] => .fail

/-- The text behind the quotes `s` starts with, as a step of a string over several lines: three of
them close the string, behind at most two that belong to it. -/
def quotesStep (quote : Char) (found s : List Char) : Step (List Char) String :=
  let count := (s.takeWhile (· = quote)).length
  if count < 3 then .more (List.replicate count quote ++ found) (s.drop count)
  else
    let own := min (count - 3) 2
    .done (text (List.replicate own quote ++ found)) (s.drop (own + 3))

/-- A plain character or a line end, as a step of a string over several lines. -/
def plainStep (found s : List Char) : Step (List Char) String :=
  match newline? s with
  | some rest => .more ('\n' :: found) rest
  | none =>
    match s with
    | c :: rest => if isPlain c then .more (c :: found) rest else .fail
    | [] => .fail

/-- A string over several lines, behind its double quotes. -/
def basicLines : Scan String :=
  iterate [] fun found s =>
    match s with
    | '"' :: _ => quotesStep '"' found s
    | '\\' :: rest =>
      match newline? (skipBlanks rest) with
      | some rest => .more found (skipSpace rest)
      | none =>
        match escape rest with
        | some (c, rest) => .more (c :: found) rest
        | none => .fail
    | s => plainStep found s

/-- A string over several lines, behind its single quotes. -/
def literalLines : Scan String :=
  iterate [] fun found s =>
    match s with
    | '\'' :: _ => quotesStep '\'' found s
    | s => plainStep found s

/-- The text behind a line end that follows opening quotes. -/
def skipFirstNewline (s : List Char) : List Char :=
  (newline? s).getD s

/-- A string of any form. -/
def string : Scan String
  | '"' :: '"' :: '"' :: rest => basicLines (skipFirstNewline rest)
  | '"' :: rest => basicLine rest
  | '\'' :: '\'' :: '\'' :: rest => literalLines (skipFirstNewline rest)
  | '\'' :: rest => literalLine rest
  | _ => none

/-- Whether a character may stand in a key without quotes. -/
def isBare (c : Char) : Bool :=
  ('a' ≤ c ∧ c ≤ 'z') ∨ ('A' ≤ c ∧ c ≤ 'Z') ∨ ('0' ≤ c ∧ c ≤ '9') ∨ c = '-' ∨ c = '_'

/-- One part of a key: bare, or a string on one line. -/
def keyPart : Scan String
  | '"' :: rest => basicLine rest
  | '\'' :: rest => literalLine rest
  | s =>
    match s.takeWhile isBare with
    | [] => none
    | bare => some (String.ofList bare, s.dropWhile isBare)

/-- The largest number of parts of a key. -/
def maxKeyParts : Nat := 79

/-- A key: its parts with points between them, and spaces around each. -/
def key : Scan (List String) := fun s => do
  let (parts, rest) ← iterate [] (fun found s =>
    match keyPart (skipBlanks s) with
    | none => .fail
    | some (part, rest) =>
      match skipBlanks rest with
      | '.' :: rest => .more (part :: found) rest
      | rest => .done (part :: found).reverse rest) s
  if parts.length ≤ maxKeyParts then some (parts, rest) else none

end Scan

end Toml

end Attest
