import Attest.Fault
import Attest.Toml.Decode

/-!
# Configuration

How many checks a cycle draws, how much time there is, and what is done to a client that fails.
Every setting has a default, so an empty document is a configuration.
-/

namespace Attest

/-- What is done to a client. -/
inductive Action where
  /-- The failure is logged, the session goes on. -/
  | warning
  /-- The connection is closed. -/
  | disconnect
  /-- The account is barred. -/
  | ban
  deriving DecidableEq, Repr

/-- The action's name in files and messages. -/
def Action.name : Action → String
  | .warning => "warning"
  | .disconnect => "disconnect"
  | .ban => "ban"

namespace Config

/-- How the checks of a cycle are drawn. -/
structure Scheduling where
  /-- The most primary checks in a cycle. -/
  primaryQuota : Nat := 3
  /-- The most secondary checks in a cycle. -/
  secondaryQuota : Nat := 7
  /-- Whether a pool is shuffled when it is filled. -/
  shuffle : Bool := true
  deriving DecidableEq, Repr

/-- Times in milliseconds. -/
structure Timing where
  /-- The time from an answer to the next challenge. -/
  interval : UInt32 := 30000
  /-- The time that a challenge may stay unanswered. -/
  timeout : UInt32 := 600000
  deriving DecidableEq, Repr

/-- The action for one check. -/
structure Override where
  check : CheckId
  action : Action
  deriving DecidableEq, Repr

/-- Which failure has which consequence. -/
structure Penalties where
  /-- For a failed check without an action of its own. -/
  checkAction : Action := .warning
  /-- For an answer that is damaged or malformed, and for a module that is not genuine. -/
  checksumAction : Action := .disconnect
  /-- For a failed timing probe. -/
  timingAction : Action := .warning
  /-- For a challenge that stays unanswered. -/
  timeoutAction : Action := .disconnect
  /-- The length of a ban in seconds. -/
  banSeconds : UInt32 := 86400
  /-- The checks with actions of their own. -/
  overrides : List Override := []
  deriving DecidableEq, Repr

end Config

/-- The settings of the engine. -/
structure Config where
  scheduling : Config.Scheduling := {}
  timing : Config.Timing := {}
  penalties : Config.Penalties := {}
  deriving DecidableEq, Repr

namespace Config

/-- The first id of a list that stood in it before, `seen` being the ids in front of the list. -/
def repeated? (seen : List CheckId) : List CheckId → Option CheckId
  | [] => none
  | id :: rest => if id ∈ seen then some id else repeated? (id :: seen) rest

/-- The first reason not to use the configuration. -/
def fault? (config : Config) : Option ConfigFault :=
  if 255 < config.scheduling.secondaryQuota then
    some (.secondaryQuota config.scheduling.secondaryQuota)
  else if config.timing.interval = 0 then some .zeroInterval
  else if config.timing.timeout = 0 then some .zeroTimeout
  else (repeated? [] (config.penalties.overrides.map (·.check))).map .repeatedOverride

/-- Answers a configuration that can be used. -/
def validated (config : Config) : Except Fault Config :=
  match config.fault? with
  | none => .ok config
  | some cause => .error (.config cause)

/-! ### Documents -/

open Toml (Value Record)

/-- Reads the name of an action. -/
def readAction (v : Value) : Option Action :=
  v.asChoice [("warning", .warning), ("disconnect", .disconnect), ("ban", .ban)]

/-- Reads the settings of the scheduler. -/
def readScheduling (v : Value) : Option Scheduling := do
  let r ← Record.ofValue? v
  let primaryQuota ← r.withDefault 0 "primary_checks_per_cycle" Value.asNat 3
  let secondaryQuota ← r.withDefault 1 "secondary_checks_per_cycle" Value.asNat 7
  let shuffle ← r.withDefault 2 "shuffle_pools" Value.asBool true
  return { primaryQuota, secondaryQuota, shuffle }

/-- Reads the times. -/
def readTiming (v : Value) : Option Timing := do
  let r ← Record.ofValue? v
  let interval ← r.withDefault 0 "check_interval_ms" Value.asUInt32 30000
  let timeout ← r.withDefault 1 "response_timeout_ms" Value.asUInt32 600000
  return { interval, timeout }

/-- Reads the action for one check. -/
def readOverride (v : Value) : Option Override := do
  let r ← Record.ofValue? v
  let check ← r.required 0 "check_id" Value.asUInt16
  let action ← r.required 1 "action" readAction
  return { check, action }

/-- Reads the consequences of failures. -/
def readPenalties (v : Value) : Option Penalties := do
  let r ← Record.ofValue? v
  let checkAction ← r.withDefault 0 "default_action" readAction .warning
  let checksumAction ← r.withDefault 1 "checksum_action" readAction .disconnect
  let timingAction ← r.withDefault 2 "timing_action" readAction .warning
  let timeoutAction ← r.withDefault 3 "timeout_action" readAction .disconnect
  let banSeconds ← r.withDefault 4 "ban_duration_secs" Value.asUInt32 86400
  let overrides ← r.withDefault 5 "overrides" (Value.asList readOverride) []
  return { checkAction, checksumAction, timingAction, timeoutAction, banSeconds, overrides }

/-- The settings of a document, whether they can be used or not. -/
def ofEntries? (entries : Toml.Entries) : Option Config := do
  let r := Record.named entries
  let scheduling ← r.withDefault 0 "scheduler" readScheduling {}
  let timing ← r.withDefault 1 "timing" readTiming {}
  let penalties ← r.withDefault 2 "penalty" readPenalties {}
  return { scheduling, timing, penalties }

/-- The configuration of a document. -/
def ofText (text : String) : Except Fault Config :=
  match (Toml.Document.read? text).bind ofEntries? with
  | some config => config.validated
  | none => .error (.config .document)

end Config

end Attest
