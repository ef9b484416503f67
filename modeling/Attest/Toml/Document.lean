import Attest.Toml.Value

/-!
# Documents

`Document.read?` reads a TOML 1.0 document into the entries of its outermost table, or refuses the
text. Arrays and tables between braces may lie inside each other seventy-nine levels deep.
-/

namespace Attest

namespace Toml

namespace Scan

/-- The last part of a key and the parts before it. -/
def splitKey (parts : List String) : Option (List String × String) :=
  parts.getLast?.map fun last => (parts.dropLast, last)

/-- A value that holds no other. -/
def scalar : Scan Value := fun s =>
  match s with
  | [] => none
  | c :: _ =>
    if c = '"' ∨ c = '\'' then (string s).map fun (v, rest) => (.string v, rest)
    else if c = 't' then (word? "true".toList s).map fun rest => (.boolean true, rest)
    else if c = 'f' then (word? "false".toList s).map fun rest => (.boolean false, rest)
    else
      match moment s, float s, integer s with
      | some (v, rest), _, _ => some (.moment v, rest)
      | none, some (v, rest), _ => some (.float v, rest)
      | none, none, some (v, rest) => some (.integer v, rest)
      | none, none, none => none

/-- The items of an array, behind its bracket. A comma may follow the last one. -/
def arrayItems (item : Scan Value) : Scan (List Value) :=
  iterate [] fun found s =>
    match skipLines s with
    | some ((), ']' :: rest) => .done found.reverse rest
    | some ((), s) =>
      match item s with
      | none => .fail
      | some (v, rest) =>
        match skipLines rest with
        | some ((), ',' :: rest) => .more (v :: found) rest
        | some ((), ']' :: rest) => .done (v :: found).reverse rest
        | _ => .fail
    | none => .fail

/-- A key, the equals sign and a value. -/
def definition (item : Scan Value) : Scan (List String × Value) := fun s => do
  let (parts, rest) ← key s
  let rest ← char? '=' rest
  let (v, rest) ← item (skipBlanks rest)
  return ((parts, v), rest)

/-- The entries of a table between braces, behind the first brace. -/
def inlineEntries (item : Scan Value) : Scan Entries := fun s =>
  match skipBlanks s with
  | '}' :: rest => some ([], rest)
  | s =>
    iterate [] (fun found s =>
      match definition item s with
      | none => .fail
      | some ((parts, v), rest) =>
        match (splitKey parts).bind fun (path, key) => Entries.define path key v .inline found with
        | none => .fail
        | some found =>
          match skipBlanks rest with
          | ',' :: rest => .more found rest
          | '}' :: rest => .done found rest
          | _ => .fail) s

/-- A value with at most `depth` levels of arrays and tables. -/
def valueWithin : Nat → Scan Value
  | 0 => scalar
  | depth + 1 => fun s =>
    match s with
    | '[' :: rest => (arrayItems (valueWithin depth) rest).map fun (v, rest) => (.array v, rest)
    | '{' :: rest =>
      (inlineEntries (valueWithin depth) rest).map fun (v, rest) => (.table .inline v, rest)
    | s => scalar s

/-- The largest number of levels of arrays and tables inside each other. -/
def maxDepth : Nat := 79

/-- A value. -/
def value : Scan Value :=
  valueWithin maxDepth

end Scan

/-- A line that says something. -/
inductive Line where
  /-- Opens a table. -/
  | header (parts : List String)
  /-- Adds a table to an array. -/
  | arrayHeader (parts : List String)
  /-- Defines a value. -/
  | definition (parts : List String) (value : Value)
  deriving Repr

namespace Line

/-- A line, up to the end of the text line that it ends in. -/
def scan : Scan Line := fun s =>
  match s with
  | '[' :: '[' :: rest => do
    let (parts, rest) ← Scan.key rest
    let rest ← Scan.word? "]]".toList rest
    let rest ← Scan.lineEnd? rest
    return (.arrayHeader parts, rest)
  | '[' :: rest => do
    let (parts, rest) ← Scan.key rest
    let rest ← Scan.char? ']' rest
    let rest ← Scan.lineEnd? rest
    return (.header parts, rest)
  | s => do
    let ((parts, v), rest) ← Scan.definition Scan.value s
    let rest ← Scan.lineEnd? rest
    return (.definition parts v, rest)

/-- The lines of a text. -/
def scanAll : Scan (List Line) :=
  Scan.iterate [] fun found s =>
    match Scan.skipSpace s with
    | [] => .done found.reverse []
    | '#' :: rest =>
      match Scan.lineEnd? ('#' :: rest) with
      | some rest => .more found rest
      | none => .fail
    | s =>
      match scan s with
      | some (line, rest) => .more (line :: found) rest
      | none => .fail

end Line

namespace Document

/-- A document while its lines are taken in. -/
structure Draft where
  /-- The header that the next definitions belong to. -/
  header : List String
  entries : Entries

/-- Takes in a line. -/
def Draft.add (draft : Draft) : Line → Option Draft
  | .header parts => do
    let (path, key) ← Scan.splitKey parts
    return ⟨parts, ← draft.entries.openTable path key⟩
  | .arrayHeader parts => do
    let (path, key) ← Scan.splitKey parts
    return ⟨parts, ← draft.entries.addTable path key⟩
  | .definition parts value => do
    let (path, key) ← Scan.splitKey parts
    return { draft with entries := ← draft.entries.defineAt draft.header path key value }

/-- The entries that lines define. -/
def ofLines (lines : List Line) : Option Entries :=
  (lines.foldlM Draft.add ⟨[], []⟩).map (·.entries)

/-- Reads a document. A byte order mark in front of it does not count. -/
def read? (text : String) : Option Entries := do
  let s := match text.toList with
    | '\uFEFF' :: s => s
    | s => s
  let (lines, _) ← Line.scanAll s
  ofLines lines

end Document

end Toml

end Attest
