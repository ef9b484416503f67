import Attest.Check
import Attest.Bytes.Hex

/-!
# Rows of a check store

A store keeps checks as flat rows: one column for every parameter that some kind has, byte strings
as hexadecimal text. `Row.toCheck` reads the columns that the row's kind uses and looks at no
other; `Row.ofCheck` writes a check as a row.
-/

namespace Attest

namespace Check

/-- A row of a check store. -/
structure Row where
  id : CheckId
  build : Build
  /-- The name of the kind. -/
  kind : String
  /-- A signature, as hexadecimal text. -/
  data : Option String
  address : Option UInt32
  length : Option UInt8
  /-- A path, a global or a name. -/
  str : Option String
  /-- What an untampered client answers, as hexadecimal text. -/
  result : Option String
  comment : String
  deriving DecidableEq, Repr

/-- Why a row is no check. -/
inductive Row.Fault where
  /-- No kind has this name. -/
  | unknownKind (kind : String)
  /-- The kind uses a column that is empty. -/
  | missing (kind column : String)
  /-- The column is no hexadecimal text. -/
  | notHex (column : String) (fault : Hex.Fault)
  /-- The expected digest of an archive file has another length than a digest. -/
  | digestLength (found : Nat)
  deriving DecidableEq, Repr

namespace Row

/-- The fault in words. -/
def Fault.message : Fault → String
  | unknownKind kind => "unknown check kind `" ++ kind ++ "`"
  | missing kind column => kind ++ " check needs `" ++ column ++ "`"
  | notHex column fault => "`" ++ column ++ "` is not valid hex: " ++ fault.message
  | digestLength found => s!"mpq result must be 20 bytes, found {found}"

variable {α : Type}

/-- The value of a column that the row's kind needs. -/
def need (row : Row) (column : String) : Option α → Except Fault α
  | some value => .ok value
  | none => .error (.missing row.kind column)

/-- The bytes of a hexadecimal column that the row's kind needs. -/
def needHex (row : Row) (column : String) : Option String → Except Fault Bytes
  | some text => (Hex.decode text).mapError (.notHex column)
  | none => .error (.missing row.kind column)

/-- The digest that a byte string is. -/
def needDigest (b : Bytes) : Except Fault (Vector UInt8 20) :=
  match b.toVector? 20 with
  | some digest => .ok digest
  | none => .error (.digestLength b.length)

/-- What the row asks. The columns of a kind are looked at in a fixed order, so of several faults
the first in that order is told. -/
def toKind (row : Row) : Except Fault Kind :=
  match row.kind with
  | "memory" => do
    let address ← row.need "address" row.address
    let length ← row.need "length" row.length
    let expected ← row.needHex "result" row.result
    return .memory address length expected
  | "page_a" => do
    let pattern ← row.needHex "data" row.data
    let address ← row.need "address" row.address
    let length ← row.need "length" row.length
    return .pageA pattern address length
  | "page_b" => do
    let pattern ← row.needHex "data" row.data
    let address ← row.need "address" row.address
    let length ← row.need "length" row.length
    return .pageB pattern address length
  | "mpq" => do
    let expected ← row.needHex "result" row.result
    let path ← row.need "str" row.str
    let digest ← needDigest expected
    return .mpq path digest
  | "lua_string" => do
    let global ← row.need "str" row.str
    return .luaString global
  | "driver" => do
    let pattern ← row.needHex "data" row.data
    let name ← row.need "str" row.str
    return .driver pattern name
  | "module" => do
    let name ← row.need "str" row.str
    return .module name
  | kind => .error (.unknownKind kind)

/-- The check that the row describes. -/
def toCheck (row : Row) : Except Fault Check :=
  row.toKind.map fun kind => ⟨row.id, row.build, kind, row.comment⟩

/-- The row that describes a check. -/
def ofCheck (c : Check) : Row :=
  let blank : Row := ⟨c.id, c.build, c.kind.name, none, none, none, none, none, c.comment⟩
  match c.kind with
  | .memory address length expected =>
    { blank with address := address, length := length, result := Hex.encode expected }
  | .pageA pattern address length =>
    { blank with data := Hex.encode pattern, address := address, length := length }
  | .pageB pattern address length =>
    { blank with data := Hex.encode pattern, address := address, length := length }
  | .mpq path expected => { blank with str := path, result := Hex.encode expected.toList }
  | .luaString global => { blank with str := global }
  | .driver pattern name => { blank with data := Hex.encode pattern, str := name }
  | .module name => { blank with str := name }

end Row

/-- Why a check is refused by a catalog. -/
inductive Fault where
  /-- Its row does not describe a check. -/
  | row (cause : Row.Fault)
  /-- It cannot be used. -/
  | defect (cause : Defect)
  /-- Its build has a check of this id already. -/
  | duplicate (build : Build)
  deriving DecidableEq, Repr

/-- The fault in words. -/
def Fault.message : Fault → String
  | row cause => cause.message
  | defect cause => cause.message
  | duplicate build => s!"duplicate id for build {build}"

end Check

end Attest
