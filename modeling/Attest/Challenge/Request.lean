import Attest.Bytes
import Attest.Wire.Field
import Attest.Wire.Opcode

/-!
# Requests

The content of a challenge before it becomes bytes: the strings that its checks refer to, and one
entry for each check. An entry refers to a string by its place, counted from one.

| part          | bytes                                                       |
|---------------|-------------------------------------------------------------|
| opcode        | `2`                                                         |
| strings       | each behind its length, then `0`                            |
| timing probe  | its tag, masked                                             |
| entries       | each its tag, masked, and what its kind needs               |
| mask          | the mask itself                                             |
-/

namespace Attest

namespace Challenge

open Wire (Field Tag)

/-- What a challenge says of one check. -/
inductive Entry where
  | memory (address : UInt32) (length : UInt8)
  | pageA (pattern : Bytes) (address : UInt32) (length : UInt8)
  | pageB (pattern : Bytes) (address : UInt32) (length : UInt8)
  | mpq (index : UInt8)
  | luaString (index : UInt8)
  | driver (pattern : Bytes) (index : UInt8)
  | module (seed : UInt32) (digest : Vector UInt8 20)
  deriving DecidableEq

namespace Entry

/-- The tag of an entry. -/
def tag : Entry → Tag
  | memory .. => .memory
  | pageA .. => .pageA
  | pageB .. => .pageB
  | mpq .. => .mpq
  | luaString .. => .luaString
  | driver .. => .driver
  | module .. => .module

/-- The fields behind the tag. -/
def fields : Entry → List Field
  | memory address length => [.byte Wire.memoryMarker, .word32 address, .byte length]
  | pageA pattern address length => [.raw pattern, .word32 address, .byte length]
  | pageB pattern address length => [.raw pattern, .word32 address, .byte length]
  | mpq index => [.byte index]
  | luaString index => [.byte index]
  | driver pattern index => [.raw pattern, .byte index]
  | module seed digest => [.word32 seed, .raw digest.toList]

/-- The entry in a challenge. -/
def maskedFields (mask : UInt8) (e : Entry) : List Field :=
  .byte (e.tag.masked mask) :: e.fields

end Entry

/-- The content of a challenge. -/
structure Request where
  strings : List Bytes
  entries : List Entry
  deriving DecidableEq

namespace Request

/-- The fields of a challenge. -/
def fields (mask : UInt8) (r : Request) : List Field :=
  .byte Wire.ServerOpcode.checksRequest.byte :: r.strings.map .short
    ++ [.byte Wire.stringsEnd, .byte (Tag.timing.masked mask)]
    ++ r.entries.flatMap (Entry.maskedFields mask)
    ++ [.byte mask]

/-- The bytes of a challenge. -/
def payload (mask : UInt8) (r : Request) : Bytes :=
  Field.encodeAll (r.fields mask)

end Request

end Challenge

end Attest
