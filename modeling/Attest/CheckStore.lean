import Attest.Fault
import Attest.Toml.Decode

/-!
# Check files

A check store can be a TOML document with an array `check`, one table for each row.
-/

namespace Attest

namespace CheckStore

open Toml (Value Record)

/-- Reads a row. -/
def readRow (v : Value) : Option Check.Row := do
  let r ← Record.ofValue? v
  let id ← r.required 0 "id" Value.asUInt16
  let build ← r.required 1 "build" Value.asUInt16
  let kind ← r.required 2 "kind" Value.asString
  let data ← r.optional 3 "data" Value.asString
  let address ← r.optional 4 "address" Value.asUInt32
  let length ← r.optional 5 "length" Value.asUInt8
  let str ← r.optional 6 "str" Value.asString
  let result ← r.optional 7 "result" Value.asString
  let comment ← r.withDefault 8 "comment" Value.asString ""
  return { id, build, kind, data, address, length, str, result, comment }

/-- Reads all rows of a document. -/
def readRows (entries : Toml.Entries) : Option (List Check.Row) :=
  (Record.named entries).withDefault 0 "check" (Value.asList readRow) []

/-- The rows of a check file. -/
def ofText (text : String) : Except Fault (List Check.Row) :=
  match (Toml.Document.read? text).bind readRows with
  | some rows => .ok rows
  | none => .error (.config .document)

end CheckStore

end Attest
