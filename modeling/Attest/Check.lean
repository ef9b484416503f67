import Attest.Wire.Opcode
import Attest.Bytes

/-!
# Checks

A check asks a client about one trace that tampering leaves: a changed piece of memory or archive
file, a signature in its pages, a script global, a driver, a loaded module. It belongs to one build
of the client and has an id there.
-/

namespace Attest

/-- A check's id, unique within a build; 0 stands for no check. -/
abbrev CheckId := UInt16

/-- The build number of a client. -/
abbrev Build := UInt16

/-- The two stocks that a cycle draws from. -/
inductive Pool where
  /-- Memory and module checks. -/
  | primary
  /-- All other checks. -/
  | secondary
  deriving DecidableEq, Repr

/-- The pool's name in diagnostics. -/
def Pool.name : Pool → String
  | .primary => "Primary"
  | .secondary => "Secondary"

/-- What a check asks, with what is needed to judge the answer. -/
inductive Check.Kind where
  /-- Read `length` bytes at `address`; an untampered client has `expected` there. -/
  | memory (address : UInt32) (length : UInt8) (expected : Bytes)
  /-- Search all pages for a signature, from `address` on. -/
  | pageA (pattern : Bytes) (address : UInt32) (length : UInt8)
  /-- Search the pages of loaded modules for a signature, from `address` on. -/
  | pageB (pattern : Bytes) (address : UInt32) (length : UInt8)
  /-- Hash an archive file; an untampered client finds `expected`. -/
  | mpq (path : String) (expected : Vector UInt8 20)
  /-- Read a script global; any value is accepted and noted. -/
  | luaString (global : String)
  /-- Look for a driver. -/
  | driver (pattern : Bytes) (name : String)
  /-- Look for a loaded module, named on the wire by a keyed digest only. -/
  | module (name : String)
  deriving DecidableEq, Repr

namespace Check.Kind

/-- The tag of the kind. -/
def tag : Kind → Wire.Tag
  | memory .. => .memory
  | pageA .. => .pageA
  | pageB .. => .pageB
  | mpq .. => .mpq
  | luaString .. => .luaString
  | driver .. => .driver
  | module .. => .module

/-- The pool that holds checks of the kind. -/
def pool : Kind → Pool
  | memory .. => .primary
  | module .. => .primary
  | _ => .secondary

/-- The string that a challenge carries for the check, if it carries one. -/
def string? : Kind → Option String
  | mpq path _ => some path
  | luaString global => some global
  | driver _ name => some name
  | _ => none

/-- What the answer is compared with, if it is compared. -/
def expectation? : Kind → Option Bytes
  | memory _ _ expected => some expected
  | mpq _ expected => some expected.toList
  | _ => none

/-- The name of the kind in check files and diagnostics. -/
def name (kind : Kind) : String :=
  kind.tag.label

end Check.Kind

/-- A check of a build. -/
structure Check where
  id : CheckId
  build : Build
  kind : Check.Kind
  /-- A free note for diagnostics. -/
  comment : String
  deriving DecidableEq, Repr

namespace Check

/-- Why a check cannot be used. -/
inductive Defect where
  /-- Its id is 0. -/
  | reservedId
  /-- It reads no memory. -/
  | zeroLength
  /-- It reads another number of bytes than it expects. -/
  | expectationLength (length : UInt8) (found : Nat)
  /-- It searches for nothing. -/
  | noPattern
  /-- Its string is empty, or too long for a length byte. -/
  | stringLength (found : Nat)
  /-- It looks for a module without a name. -/
  | noName
  deriving DecidableEq, Repr

/-- The defect in words. -/
def Defect.message : Defect → String
  | reservedId => "id 0 is reserved for \"no check\""
  | zeroLength => "memory check with zero length"
  | expectationLength length found => s!"expected {length} result bytes, found {found}"
  | noPattern => "scan check without a pattern"
  | stringLength found => s!"string must be 1..=255 bytes, found {found}"
  | noName => "module check without a name"

/-- The defect of a memory check. -/
def memoryDefect? (length : UInt8) (expected : Bytes) : Option Defect :=
  if length = 0 then some .zeroLength
  else if expected.length ≠ length.toNat then some (.expectationLength length expected.length)
  else none

/-- The defect of a search. -/
def patternDefect? (pattern : Bytes) : Option Defect :=
  if pattern = [] then some .noPattern else none

/-- The defect of a string that goes into a challenge. -/
def stringDefect? (s : String) : Option Defect :=
  if s.utf8ByteSize = 0 ∨ 255 < s.utf8ByteSize then some (.stringLength s.utf8ByteSize) else none

/-- The first defect of what a check asks. -/
def Kind.defect? : Kind → Option Defect
  | .memory _ length expected => memoryDefect? length expected
  | .pageA pattern _ _ => patternDefect? pattern
  | .pageB pattern _ _ => patternDefect? pattern
  | .mpq path _ => stringDefect? path
  | .luaString global => stringDefect? global
  | .driver pattern name => (patternDefect? pattern).or (stringDefect? name)
  | .module name => if name = "" then some .noName else none

/-- The first defect of a check. -/
def defect? (c : Check) : Option Defect :=
  if c.id = 0 then some .reservedId else c.kind.defect?

end Check

end Attest
