import Attest.Config
import Attest.Response.Report

/-!
# Penalties

A penalty is a decision with its reason; carrying it out is the task of others.

| reason                                              | action                               |
|-----------------------------------------------------|--------------------------------------|
| damaged or malformed answer, module not genuine     | `checksumAction`                     |
| failed check                                        | the check's own, else `checkAction`  |
| failed timing probe                                 | `timingAction`                       |
| no answer                                           | `timeoutAction`                      |
-/

namespace Attest

/-- Why a penalty is decided. -/
inductive PenaltyReason where
  | checksumMismatch
  | malformed
  | timingProbe
  | checkFailed (id : CheckId)
  | hashMismatch
  | responseTimeout
  deriving DecidableEq, Repr

namespace PenaltyReason

/-- The reason in words. -/
def message : PenaltyReason → String
  | checksumMismatch => "response checksum mismatch"
  | malformed => "malformed response"
  | timingProbe => "timing probe failed"
  | checkFailed id => s!"check {id} failed"
  | hashMismatch => "module hash mismatch"
  | responseTimeout => "response timeout"

/-- The check at fault; 0 if it is no single check. -/
def checkId : PenaltyReason → CheckId
  | checkFailed id => id
  | _ => 0

end PenaltyReason

namespace Config.Penalties

/-- The action of a check that failed. Of several actions for one check the last one counts. -/
def checkActionFor (policy : Penalties) (id : CheckId) : Action :=
  match policy.overrides.reverse.find? (·.check = id) with
  | some o => o.action
  | none => policy.checkAction

/-- The action for a reason. -/
def actionFor (policy : Penalties) : PenaltyReason → Action
  | .checksumMismatch => policy.checksumAction
  | .malformed => policy.checksumAction
  | .hashMismatch => policy.checksumAction
  | .timingProbe => policy.timingAction
  | .responseTimeout => policy.timeoutAction
  | .checkFailed id => policy.checkActionFor id

end Config.Penalties

/-- A decision about an account. -/
structure Penalty where
  account : UInt32
  reason : PenaltyReason
  /-- The check that the description names. -/
  check : Option Check
  action : Action
  /-- The length of the ban in seconds; 0 if the action is no ban. -/
  banSeconds : UInt32
  deriving DecidableEq, Repr

namespace Penalty

/-- What a description says of a check: its kind and, if there is one, its comment. -/
def describeCheck (c : Check) : String :=
  " (" ++ c.kind.name ++ " check" ++ (if c.comment = "" then "" else ": " ++ c.comment) ++ ")"

/-- The decision in words. -/
def description (p : Penalty) : String :=
  s!"account {p.account}: " ++ p.reason.message ++ (p.check.map describeCheck).getD ""
    ++ ", action " ++ p.action.name

/-- The penalty for a reason. -/
def decide (policy : Config.Penalties) (account : UInt32) (reason : PenaltyReason)
    (check : Option Check) : Penalty :=
  let action := policy.actionFor reason
  ⟨account, reason, check, action, if action = .ban then policy.banSeconds else 0⟩

/-- Why an answer deserves a penalty, if it does. A failed check comes before a failed probe. -/
def reasonOf? : Outcome → Option PenaltyReason
  | .checksumMismatch => some .checksumMismatch
  | .malformed _ => some .malformed
  | .decoded r =>
    match r.firstFailure? with
    | some id => some (.checkFailed id)
    | none => if r.timing.passed then none else some .timingProbe

/-- The penalty that an answer deserves, if it deserves one; `check` is the check at fault. -/
def judge (policy : Config.Penalties) (account : UInt32) (outcome : Outcome)
    (check : Option Check) : Option Penalty :=
  (reasonOf? outcome).map fun reason => decide policy account reason check

end Penalty

end Attest
