import Attest.Fault
import Attest.Keys
import Attest.Penalty

/-!
# The log

Everything that is worth a line in the log is an event. Levels and wording are given here and
nowhere else.
-/

namespace Attest

/-- How much a line of the log matters. -/
inductive Level where
  | error
  | warn
  | info
  | debug
  deriving DecidableEq, Repr

/-- The level's name in front of a line. -/
def Level.name : Level → String
  | .error => "ERROR"
  | .warn => "WARN"
  | .info => "INFO"
  | .debug => "DEBUG"

/-- Something that is worth a line in the log. -/
inductive Event where
  | rowsRead (count : Nat) (path : String)
  | catalogLoaded (checks builds : Nat)
  | imageLoaded (size : Nat) (fingerprint : Vector UInt8 16)
  | desync (build : Build) (id : CheckId)
  | poolRefilled (pool : Pool) (build : Build) (count : Nat)
  | challengeBuilt (build : Build) (ids : List CheckId)
  | responseOverlong (length : UInt16) (available : Nat)
  | responseDamaged (length : UInt16)
  | timingRead (sample : TimingSample)
  | timingFailed
  | textRead (id : CheckId) (text : String)
  | checkPassed (id : CheckId) (tag : Wire.Tag)
  | checkFailed (id : CheckId) (tag : Wire.Tag) (note : Option Note)
  | responseCut (id : CheckId) (cause : Wire.Truncated)
  | responseTrailing (count : Nat)
  | sessionStarted (account : UInt32) (build : Build)
  | keysDerived (keys : Keys)
  | moduleMissing (account : UInt32)
  | moduleLoaded (account : UInt32)
  | moduleFailed (account : UInt32)
  | outOfTurn (account : UInt32) (opcode : Wire.ClientOpcode) (phase : Phase)
  | hashAccepted (account : UInt32)
  | keysRotated (keys : Keys)
  | penaltyDecided (penalty : Penalty)
  | cyclePassed (account : UInt32) (cycle : Nat)
  | challengeSent (account : UInt32) (ids : List CheckId)
  | challengeExpired (account : UInt32) (ids : List CheckId)
  deriving DecidableEq

namespace Event

/-- The level of an event. -/
def level : Event → Level
  | desync .. => .error
  | responseOverlong .. => .warn
  | responseDamaged .. => .warn
  | timingFailed => .warn
  | checkFailed .. => .warn
  | responseCut .. => .warn
  | responseTrailing .. => .warn
  | moduleFailed .. => .warn
  | outOfTurn .. => .warn
  | penaltyDecided .. => .warn
  | challengeExpired .. => .warn
  | catalogLoaded .. => .info
  | imageLoaded .. => .info
  | sessionStarted .. => .info
  | moduleMissing .. => .info
  | hashAccepted .. => .info
  | rowsRead .. => .debug
  | poolRefilled .. => .debug
  | challengeBuilt .. => .debug
  | timingRead .. => .debug
  | textRead .. => .debug
  | checkPassed .. => .debug
  | keysDerived .. => .debug
  | moduleLoaded .. => .debug
  | keysRotated .. => .debug
  | cyclePassed .. => .debug
  | challengeSent .. => .debug

/-- Ids as a list in a line. -/
def idList (ids : List CheckId) : String :=
  Text.bracketed (ids.map toString)

/-- Both keys in a line. -/
def keyPair (keys : Keys) : String :=
  "C->S key " ++ Hex.encode keys.inbound.toList ++ ", S->C key " ++ Hex.encode keys.outbound.toList

/-- The event in words. -/
def text : Event → String
  | rowsRead count path => s!"Read {count} check rows from " ++ path
  | catalogLoaded checks builds =>
    s!"Check catalog loaded: {checks} checks across {builds} builds"
  | imageLoaded size fingerprint =>
    s!"Module loaded: {size} bytes, fingerprint " ++ Hex.encode fingerprint.toList
  | desync build id => s!"Catalog desync: check {id} missing for build {build}"
  | poolRefilled pool build count =>
    "Refilled " ++ pool.name ++ s!" pool for build {build}: {count} checks"
  | challengeBuilt build ids => s!"Built challenge for build {build}: checks " ++ idList ids
  | responseOverlong length available =>
    s!"Response length {length} exceeds {available} available bytes"
  | responseDamaged length => s!"Response checksum mismatch ({length} covered bytes)"
  | timingRead t =>
    s!"Timing probe: passed {t.passed}, client ticks {t.ticks}, elapsed {t.elapsed} ms, "
      ++ s!"skew {t.skew}"
  | timingFailed => "Timing probe failed"
  | textRead id text => s!"Lua check {id} read " ++ Text.quoted text
  | checkPassed id tag => s!"Check {id} (" ++ tag.label ++ ") passed"
  | checkFailed id tag note =>
    s!"Check {id} (" ++ tag.label ++ ") failed" ++ (note.map (": " ++ ·.message)).getD ""
  | responseCut id cause => s!"Response truncated at check {id}: " ++ cause.message
  | responseTrailing count =>
    s!"Response has {count} covered bytes past its last check; client grammar differs"
  | sessionStarted account build =>
    s!"Warden session for account {account} (build {build}) initializing"
  | keysDerived keys => keyPair keys ++ ", seed " ++ Hex.encode keys.seed.toList
  | moduleMissing account => s!"Account {account} is missing the module; streaming it"
  | moduleLoaded account => s!"Account {account} loaded the module"
  | moduleFailed account =>
    s!"Account {account} failed to load the module; announcing it again"
  | outOfTurn account opcode phase =>
    s!"Account {account} sent " ++ opcode.name ++ " in phase " ++ phase.name
  | hashAccepted account => s!"Account {account} passed the hash request; keys rotated"
  | keysRotated keys => "Rotated " ++ keyPair keys
  | penaltyDecided penalty => penalty.description
  | cyclePassed account cycle => s!"Account {account} passed cycle {cycle}"
  | challengeSent account ids => s!"Sent check ids to account {account}: " ++ idList ids
  | challengeExpired account ids =>
    s!"Account {account} left checks " ++ idList ids ++ " unanswered"

/-- The line of an event. -/
def line (e : Event) : String :=
  e.level.name ++ " " ++ e.text

end Event

/-- The events of a fault: that a session holds a check which the catalog does not have is logged
where it is found. -/
def Fault.events : Fault → List Event
  | .desync build id => [.desync build id]
  | _ => []

end Attest
