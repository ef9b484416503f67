import Attest.Check.Row
import Attest.Phase
import Attest.Wire.Cursor

/-!
# Faults

What goes wrong on the server's side: unusable files, an inconsistent catalog, a peer that speaks
out of turn. That a client fails a check is no fault; it is a value in the report on its answer.
-/

namespace Attest

/-- Why a configuration cannot be used. -/
inductive ConfigFault where
  /-- The text is no configuration document. -/
  | document
  /-- More secondary checks a cycle than a string index can tell apart. -/
  | secondaryQuota (quota : Nat)
  /-- No time between an answer and the next challenge. -/
  | zeroInterval
  /-- No time to answer. -/
  | zeroTimeout
  /-- Two actions for one check. -/
  | repeatedOverride (id : CheckId)
  /-- A cycle drew more strings than an index can tell apart. -/
  | tooManyStrings
  deriving DecidableEq, Repr

/-- The fault in words, except where a document as a whole was refused. -/
def ConfigFault.reason? : ConfigFault → Option String
  | document => none
  | secondaryQuota quota => some s!"secondary_checks_per_cycle {quota} exceeds 255"
  | zeroInterval => some "check_interval_ms must be non-zero"
  | zeroTimeout => some "response_timeout_ms must be non-zero"
  | repeatedOverride id => some s!"duplicate penalty override for check {id}"
  | tooManyStrings => some "more than 255 string checks in one cycle"

/-- Why a module cannot be used. -/
inductive ImageFault where
  /-- The text is no manifest. -/
  | document
  /-- There are no module bytes. -/
  | emptyBlob
  /-- There are more module bytes than a word can count. -/
  | oversizedBlob (size : Nat)
  /-- A field of the manifest is no hexadecimal text. -/
  | notHex (field : String) (cause : Hex.Fault)
  /-- A field of the manifest has another number of bytes than it needs. -/
  | fieldLength (field : String) (needed found : Nat)
  deriving DecidableEq, Repr

/-- The fault in words, except where a document as a whole was refused. -/
def ImageFault.reason? : ImageFault → Option String
  | document => none
  | emptyBlob => some "module blob is empty"
  | oversizedBlob size => some s!"module blob of {size} bytes does not fit the size field"
  | notHex field cause => some ("`" ++ field ++ "` is not valid hex: " ++ cause.message)
  | fieldLength field needed found =>
    some ("`" ++ field ++ s!"` must be {needed} bytes, found {found}")

/-- Why a file could not be read. -/
inductive ReadFault where
  | missing
  /-- The path leads through a file. -/
  | notDirectory
  /-- The path leads to a directory. -/
  | directory
  /-- The bytes are no text. -/
  | notText
  /-- Any other reason that the system gives. -/
  | other (reason : String)
  deriving DecidableEq, Repr

/-- The reason in words. -/
def ReadFault.message : ReadFault → String
  | missing => "No such file or directory (os error 2)"
  | notDirectory => "Not a directory (os error 20)"
  | directory => "Is a directory (os error 21)"
  | notText => "stream did not contain valid UTF-8"
  | other reason => reason

/-- A fault of the engine. -/
inductive Fault where
  | config (cause : ConfigFault)
  | unreadable (path : String) (cause : ReadFault)
  | check (id : CheckId) (cause : Check.Fault)
  | image (cause : ImageFault)
  /-- A session holds the id of a check that the catalog does not have. -/
  | desync (build : Build) (id : CheckId)
  | unknownOpcode (byte : UInt8)
  /-- A message came in a phase that has no use for it. -/
  | unexpectedOpcode (opcode : Wire.ClientOpcode) (phase : Phase)
  | truncated (cause : Wire.Truncated)
  | emptySecret
  deriving DecidableEq, Repr

/-- The fault in words, except where a document as a whole was refused. -/
def Fault.message? : Fault → Option String
  | config cause => cause.reason?.map ("invalid configuration: " ++ ·)
  | unreadable path cause => some ("failed to read " ++ path ++ ": " ++ cause.message)
  | check id cause => some (s!"invalid check {id}: " ++ cause.message)
  | image cause => cause.reason?.map ("invalid module: " ++ ·)
  | desync build id => some s!"check {id} is not in the catalog for build {build}"
  | unknownOpcode byte => some ("unknown client opcode " ++ Text.byteLiteral byte)
  | unexpectedOpcode opcode phase =>
    some ("unexpected client opcode " ++ opcode.name ++ " in phase " ++ phase.name)
  | truncated cause => some cause.message
  | emptySecret => some "session secret is empty"

end Attest
