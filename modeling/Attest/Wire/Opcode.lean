/-!
# Opcodes and tags

The first byte of a message is its opcode, one set for each direction. Inside a challenge every
check begins with the tag of its kind, combined by exclusive or with the mask of the challenge.
-/

namespace Attest

namespace Wire

/-- Messages from the server. -/
inductive ServerOpcode where
  /-- Announces the module that the client must load. -/
  | moduleUse
  /-- Carries a chunk of the module. -/
  | moduleCache
  /-- Carries a challenge. -/
  | checksRequest
  /-- Names the functions that the loaded module may call. -/
  | moduleInitialize
  /-- Carries the seed that the module has to answer. -/
  | hashRequest
  deriving DecidableEq, Repr

/-- The byte that opens the message. -/
def ServerOpcode.byte : ServerOpcode → UInt8
  | .moduleUse => 0
  | .moduleCache => 1
  | .checksRequest => 2
  | .moduleInitialize => 3
  | .hashRequest => 5

/-- Messages from the client. -/
inductive ClientOpcode where
  /-- The announced module is not in the client's cache. -/
  | moduleMissing
  /-- The announced module is loaded. -/
  | moduleOk
  /-- The answer to a challenge. -/
  | checksResult
  /-- The answer to a challenge of an older kind, of memory checks only. -/
  | memoryResult
  /-- The answer to the seed. -/
  | hashResult
  /-- The announced module could not be loaded. -/
  | moduleFailed
  deriving DecidableEq, Repr

/-- The opcode of a byte. -/
def ClientOpcode.ofByte? (b : UInt8) : Option ClientOpcode :=
  if b = 0 then some .moduleMissing
  else if b = 1 then some .moduleOk
  else if b = 2 then some .checksResult
  else if b = 3 then some .memoryResult
  else if b = 4 then some .hashResult
  else if b = 5 then some .moduleFailed
  else none

/-- The byte that opens the message. -/
def ClientOpcode.byte : ClientOpcode → UInt8
  | .moduleMissing => 0
  | .moduleOk => 1
  | .checksResult => 2
  | .memoryResult => 3
  | .hashResult => 4
  | .moduleFailed => 5

@[simp] theorem ClientOpcode.ofByte?_byte (o : ClientOpcode) : ofByte? o.byte = some o := by
  cases o <;> rfl

/-- The name of the message in diagnostics. -/
def ClientOpcode.name : ClientOpcode → String
  | .moduleMissing => "ModuleMissing"
  | .moduleOk => "ModuleOk"
  | .checksResult => "CheatChecksResult"
  | .memoryResult => "MemChecksResult"
  | .hashResult => "HashResult"
  | .moduleFailed => "ModuleFailed"

/-- What a part of a challenge asks for. -/
inductive Tag where
  /-- Read a piece of memory. -/
  | memory
  /-- Search all pages for a signature. -/
  | pageA
  /-- Search the pages of loaded modules for a signature. -/
  | pageB
  /-- Hash a file of the client's archives. -/
  | mpq
  /-- Read a global of the script machine. -/
  | luaString
  /-- Look for a driver. -/
  | driver
  /-- Measure the time, once in a challenge. -/
  | timing
  /-- Look for a loaded module. -/
  | module
  deriving DecidableEq, Repr

/-- The byte of a tag, unmasked. -/
def Tag.byte : Tag → UInt8
  | .memory => 0xF3
  | .pageA => 0xB2
  | .pageB => 0xBF
  | .mpq => 0x98
  | .luaString => 0x8B
  | .driver => 0x71
  | .timing => 0x57
  | .module => 0xD9

/-- The name of the tag in check files and diagnostics. -/
def Tag.label : Tag → String
  | .memory => "memory"
  | .pageA => "page_a"
  | .pageB => "page_b"
  | .mpq => "mpq"
  | .luaString => "lua_string"
  | .driver => "driver"
  | .timing => "timing"
  | .module => "module"

/-- The byte of a tag as it stands in a challenge. -/
def Tag.masked (t : Tag) (mask : UInt8) : UInt8 :=
  t.byte ^^^ mask

/-- The length of a module chunk, of which only the last may be shorter. -/
def chunkSize : Nat := 500

/-- The answer of a search that found nothing. -/
def cleanSentinel : UInt8 := 0xE9

/-- The empty string that ends the strings of a challenge. -/
def stringsEnd : UInt8 := 0

/-- The byte before the address of a memory check. -/
def memoryMarker : UInt8 := 0

end Wire

end Attest
