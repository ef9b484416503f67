/-!
# Scanning text

A `Scan` reads a value from the start of a text and answers what follows it, or reads nothing.
What repeats is written as a step on what was found so far; `Scan.iterate` applies the step until
it is done. A step that goes on takes at least one character, so the number of characters bounds
the number of steps.
-/

namespace Attest

namespace Toml

/-- Reads a value and answers the text behind it. -/
abbrev Scan (α : Type) := List Char → Option (α × List Char)

namespace Scan

variable {α σ : Type}

/-- What a step of a repetition answers. -/
inductive Step (σ α : Type) where
  /-- Go on with what was found and the text behind it. -/
  | more (found : σ) (rest : List Char)
  /-- The repetition is over. -/
  | done (value : α) (rest : List Char)
  /-- The text is not in the form that is read. -/
  | fail

/-- At most `n` steps. -/
def repeatWithin (step : σ → List Char → Step σ α) : Nat → σ → Scan α
  | 0, _, _ => none
  | n + 1, found, s =>
    match step found s with
    | .more found rest => repeatWithin step n found rest
    | .done value rest => some (value, rest)
    | .fail => none

/-- Applies the step until it is done. -/
def iterate (start : σ) (step : σ → List Char → Step σ α) : Scan α := fun s =>
  repeatWithin step (s.length + 1) start s

/-- Whether a character is a space inside a line. -/
def isBlank (c : Char) : Bool :=
  c = ' ' ∨ c = '\t'

/-- The text behind spaces. -/
def skipBlanks (s : List Char) : List Char :=
  s.dropWhile isBlank

/-- The text behind the end of a line, if the line ends here. -/
def newline? : List Char → Option (List Char)
  | '\n' :: rest => some rest
  | '\r' :: '\n' :: rest => some rest
  | _ => none

/-- Whether a comment may hold the character. -/
def isCommentChar (c : Char) : Bool :=
  c = '\t' ∨ (' ' ≤ c ∧ c ≠ '\x7f')

/-- The text behind a comment, if one starts here. -/
def skipComment : List Char → List Char
  | '#' :: rest => rest.dropWhile isCommentChar
  | s => s

/-- The text behind the rest of a line that holds at most a comment. -/
def lineEnd? (s : List Char) : Option (List Char) :=
  match skipComment (skipBlanks s) with
  | [] => some []
  | s => newline? s

/-- The text behind spaces and line ends. -/
def skipSpace : List Char → List Char
  | '\n' :: rest => skipSpace rest
  | '\r' :: '\n' :: rest => skipSpace rest
  | c :: rest => if isBlank c then skipSpace rest else c :: rest
  | [] => []

/-- The text behind spaces, line ends and comments. -/
def skipLines : Scan Unit :=
  iterate () fun _ s =>
    match skipSpace s with
    | '#' :: rest => .more () (skipComment ('#' :: rest))
    | s => .done () s

/-- The text behind an expected character. -/
def char? (expected : Char) : List Char → Option (List Char)
  | c :: rest => if c = expected then some rest else none
  | [] => none

/-- The text behind an expected word. -/
def word? : List Char → List Char → Option (List Char)
  | [], s => some s
  | c :: word, d :: s => if c = d then word? word s else none
  | _ :: _, [] => none

end Scan

end Toml

end Attest
