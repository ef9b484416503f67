import Attest.ModuleImage
import Attest.Wire.Field
import Attest.Wire.Opcode

/-!
# Messages about the module

| message           | fields                                             |
|-------------------|----------------------------------------------------|
| module use        | `0`, fingerprint, key, size (4 bytes)              |
| module cache      | `1`, length (2 bytes), chunk                       |
| hash request      | `5`, seed                                          |
| module initialize | three times `3`, length (2), checksum (4), block   |

All of them are plain; the session seals them.
-/

namespace Attest

namespace ModuleImage

open Wire (Field)

/-- What a client is told about the module. -/
structure Announcement where
  size : UInt32
  fingerprint : Vector UInt8 16
  key : Key
  deriving DecidableEq

/-- What a client is told about this module. -/
def announcement (image : ModuleImage) : Announcement :=
  ⟨Bytes.count32 image.blob, image.fingerprint, image.key⟩

/-- Announces a module. -/
def Announcement.message (a : Announcement) : Bytes :=
  Field.encodeAll [.byte Wire.ServerOpcode.moduleUse.byte, .raw a.fingerprint.toList,
    .raw a.key.toList, .word32 a.size]

/-- Carries a chunk of a module. -/
def chunkMessage (chunk : Bytes) : Bytes :=
  Field.encodeAll [.byte Wire.ServerOpcode.moduleCache.byte, .word16 (Bytes.count16 chunk),
    .raw chunk]

/-- The messages that carry a blob. -/
def chunkMessages (blob : Bytes) : List Bytes :=
  (Bytes.chunks Wire.chunkSize blob).map chunkMessage

/-- Asks the module a seed. -/
def hashRequest (seed : Key) : Bytes :=
  Field.encodeAll [.byte Wire.ServerOpcode.hashRequest.byte, .raw seed.toList]

/-- The block that names the functions for archive files. -/
def Functions.filesBlock (f : Functions) : Bytes :=
  Field.encodeAll ([.byte 1, .byte 0, .byte 1, .byte 0] ++ f.files.toList.map .word32)

/-- The block that names the function for script texts. -/
def Functions.loadBlock (f : Functions) : Bytes :=
  Field.encodeAll [.byte 4, .byte 0, .byte 0, .word32 f.load, .byte 1]

/-- The block that names the tick counter. -/
def Functions.tickBlock (f : Functions) : Bytes :=
  Field.encodeAll [.byte 1, .byte 1, .byte 0, .word32 f.tick, .byte 1]

/-- The fields of a block: opcode, length, checksum and the block itself. -/
def blockFields (block : Bytes) : List Field :=
  [.byte Wire.ServerOpcode.moduleInitialize.byte, .word16 (Bytes.count16 block),
    .word32 (checksum block), .raw block]

/-- Names the functions that the module may call. -/
def Functions.message (f : Functions) : Bytes :=
  Field.encodeAll ([f.filesBlock, f.loadBlock, f.tickBlock].flatMap blockFields)

end ModuleImage

end Attest
