import Attest.Toml.Strings
import Attest.Toml.Numbers

/-!
# Values

A table remembers how it came about, because that decides what may still be added to it: a table
under a header is defined once, one that only leads to another may get its header later, one that
a dotted key opened takes more dotted keys, and one between braces is closed. `Entries.define`
and its relatives add to a document under these rules.
-/

namespace Attest

namespace Toml

/-- How a table came about. -/
inductive Form where
  /-- By a header of its own, or as the document itself. -/
  | header
  /-- On the way to the table of a header. -/
  | implied
  /-- On the way to the value of a dotted key. -/
  | dotted
  /-- Between braces. -/
  | inline
  deriving DecidableEq, Repr

/-- A value of a document. -/
inductive Value where
  | string (value : String)
  | integer (value : Int)
  /-- A float, as it is written. -/
  | float (written : String)
  | boolean (value : Bool)
  /-- A date or time, as it is written. -/
  | moment (written : String)
  | array (items : List Value)
  | table (form : Form) (entries : List (String × Value))
  /-- An array that headers add tables to. -/
  | tables (items : List (List (String × Value)))
  deriving Repr

/-- The entries of a table, in the order in which they were defined. -/
abbrev Entries := List (String × Value)

namespace Entries

/-- The value under a key. -/
def get? (entries : Entries) (key : String) : Option Value :=
  entries.lookup key

/-- Puts what `edit` makes of the value under a key in its place. -/
def alter (key : String) (edit : Option Value → Option Value) : Entries → Option Entries
  | [] => (edit none).map fun value => [(key, value)]
  | (k, v) :: rest =>
    if k = key then (edit (some v)).map fun value => (k, value) :: rest
    else (alter key edit rest).map ((k, v) :: ·)

/-- Edits the table at the end of a path, given its form and its entries. Tables that are missing
on the way are opened as `opened`. An array of tables leads on into its last one; a table between
braces does not lead on, and a table under a header is not entered by a dotted key. -/
def editAt (opened : Form) (edit : Form → Entries → Option Entries) :
    List String → Form → Entries → Option Entries
  | [], form, entries => edit form entries
  | key :: path, _, entries =>
    entries.alter key fun
      | none => (editAt opened edit path opened []).map (.table opened)
      | some (.table form inner) =>
        if form = .inline ∨ (opened = .dotted ∧ form = .header) then none
        else (editAt opened edit path form inner).map (.table form)
      | some (.tables items) => do
        let last ← items.getLast?
        let last ← editAt opened edit path .header last
        return .tables (items.dropLast ++ [last])
      | some _ => none

/-- Defines a value under a dotted key. The table that takes it is new, or a dotted key opened it;
a key with one part goes into the table itself. -/
def define (path : List String) (key : String) (value : Value) (form : Form) (entries : Entries) :
    Option Entries :=
  editAt .dotted (fun form entries =>
    if form = .dotted ↔ path = [] then none
    else entries.alter key fun
      | none => some value
      | some _ => none) path form entries

/-- Opens the table of a header. -/
def openTable (path : List String) (key : String) (entries : Entries) : Option Entries :=
  editAt .implied (fun _ entries =>
    entries.alter key fun
      | none => some (.table .header [])
      | some (.table .implied inner) => some (.table .header inner)
      | some _ => none) path .header entries

/-- Adds a table to the array of a header. -/
def addTable (path : List String) (key : String) (entries : Entries) : Option Entries :=
  editAt .implied (fun _ entries =>
    entries.alter key fun
      | none => some (.tables [[]])
      | some (.tables items) => some (.tables (items ++ [[]]))
      | some _ => none) path .header entries

/-- Defines a value under a dotted key in the table of the header before it. -/
def defineAt (header : List String) (path : List String) (key : String) (value : Value)
    (entries : Entries) : Option Entries :=
  editAt .implied (define path key value) header .header entries

end Entries

end Toml

end Attest
