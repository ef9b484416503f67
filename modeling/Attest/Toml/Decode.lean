import Attest.Toml.Document

/-!
# Reading values as data

A record is read from a table by the names of its fields, or from an array by their places; names
that no field has and places behind the last field do not count. A moment is read as a record
without known fields. A choice is read from its name, or from a table that has the name as its
only key and nothing under it.
-/

namespace Attest

namespace Toml

namespace Value

variable {α : Type}

/-- The items of an array of either kind. -/
def items? : Value → Option (List Value)
  | array items => some items
  | tables items => some (items.map (.table .header))
  | _ => none

/-- Whether a value is an array or a table that holds nothing. -/
def isHollow : Value → Bool
  | array items => items.isEmpty
  | tables items => items.isEmpty
  | table _ entries => entries.isEmpty
  | _ => false

/-- A text. -/
def asString : Value → Option String
  | string value => some value
  | _ => none

/-- A truth value. -/
def asBool : Value → Option Bool
  | boolean value => some value
  | _ => none

/-- A whole number. -/
def asNat : Value → Option Nat
  | integer value => if 0 ≤ value then some value.toNat else none
  | _ => none

/-- A whole number below a bound. -/
def asBelow (bound : Nat) (v : Value) : Option Nat :=
  v.asNat.filter (· < bound)

/-- A number of one byte. -/
def asUInt8 (v : Value) : Option UInt8 :=
  (v.asBelow UInt8.size).map UInt8.ofNat

/-- A number of two bytes. -/
def asUInt16 (v : Value) : Option UInt16 :=
  (v.asBelow UInt16.size).map UInt16.ofNat

/-- A number of four bytes. -/
def asUInt32 (v : Value) : Option UInt32 :=
  (v.asBelow UInt32.size).map UInt32.ofNat

/-- A list, all of whose items are read. -/
def asList (item : Value → Option α) (v : Value) : Option (List α) := do
  (← v.items?).mapM item

/-- The first `n` items of an array that has as many; the items behind them are not looked at. -/
def asVector (n : Nat) (item : Value → Option α) (v : Value) : Option (Vector α n) := do
  let items ← ((← v.items?).take n).mapM item
  if h : items.length = n then some ⟨items.toArray, by simp [h]⟩ else none

/-- A choice between names. -/
def asChoice (choices : List (String × α)) : Value → Option α
  | string name => choices.lookup name
  | table _ [(name, v)] => if v.isHollow then choices.lookup name else none
  | _ => none

end Value

/-- What the fields of a record are read from. -/
inductive Record where
  | named (entries : Entries)
  | placed (items : List Value)

namespace Record

/-- The record that a value is. -/
def ofValue? : Value → Option Record
  | .table _ entries => some (.named entries)
  | .moment _ => some (.named [])
  | v => v.items?.map .placed

/-- The value of the field with a place and a name. -/
def field? (r : Record) (place : Nat) (name : String) : Option Value :=
  match r with
  | named entries => entries.get? name
  | placed items => items[place]?

variable {α : Type}

/-- A field that has to be there. -/
def required (r : Record) (place : Nat) (name : String) (decode : Value → Option α) : Option α :=
  (r.field? place name).bind decode

/-- A field that may be missing. -/
def optional (r : Record) (place : Nat) (name : String) (decode : Value → Option α) :
    Option (Option α) :=
  match r.field? place name with
  | none => some none
  | some v => (decode v).map some

/-- A field with a value for the case that it is missing. -/
def withDefault (r : Record) (place : Nat) (name : String) (decode : Value → Option α)
    (default : α) : Option α :=
  match r.field? place name with
  | none => some default
  | some v => decode v

end Record

end Toml

end Attest
