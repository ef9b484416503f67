/-!
# Phases

Where a session stands on its way from the announcement of the module to the challenges.
-/

namespace Attest

/-- The phase of a session. -/
inductive Phase where
  /-- The module is announced and not yet loaded. -/
  | awaitingModule
  /-- The seed is sent and not yet answered. -/
  | awaitingHash
  /-- The module proved itself; challenges are sent. -/
  | active
  /-- The module answered the seed wrongly; nothing is accepted any more. -/
  | rejected
  deriving DecidableEq, Repr

/-- The phase's name in diagnostics. -/
def Phase.name : Phase → String
  | .awaitingModule => "AwaitingModule"
  | .awaitingHash => "AwaitingHash"
  | .active => "Active"
  | .rejected => "Rejected"

end Attest
