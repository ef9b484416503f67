import Attest.Catalog
import Attest.Challenge.Request
import Attest.Event
import Attest.Hash.Hmac
import Attest.Random.Seeds
import Attest.Schedule

/-!
# Challenges

`Challenge.ofSelection` turns the checks of a cycle into a challenge. The strings of the secondary
checks are collected first; the entries then refer to them by counting, so the two passes have to
meet the strings in the same order. Each module check uses up one seed, also if the building fails
behind it.
-/

namespace Attest

/-- A challenge and the checks that it carries. -/
structure Challenge where
  /-- The plain bytes. -/
  payload : Bytes
  /-- The checks in the order of their entries. -/
  inFlight : List CheckId
  deriving DecidableEq

namespace Challenge

/-- The place of the next string, behind `used` others, as long as a byte can tell it. -/
def nextIndex? (used : Nat) : Option UInt8 :=
  if used < 255 then some (UInt8.ofNat (used + 1)) else none

/-- The entry for a check behind `used` strings. Answers how many strings are used up then. -/
def entryOf? (kind : Check.Kind) (used : Nat) (seeds : SeedStream) :
    Option (Entry × Nat × SeedStream) :=
  match kind with
  | .memory address length _ => some (.memory address length, used, seeds)
  | .pageA pattern address length => some (.pageA pattern address length, used, seeds)
  | .pageB pattern address length => some (.pageB pattern address length, used, seeds)
  | .mpq _ _ => (nextIndex? used).map fun index => (.mpq index, used + 1, seeds)
  | .luaString _ => (nextIndex? used).map fun index => (.luaString index, used + 1, seeds)
  | .driver pattern _ => (nextIndex? used).map fun index => (.driver pattern index, used + 1, seeds)
  | .module name =>
    let (seed, seeds) := seeds.next32
    some (.module seed (moduleDigest seed (Bytes.ofString name)), used, seeds)

variable (catalog : Catalog) (build : Build)

/-- The strings of checks. -/
def strings : List CheckId → Except Fault (List Bytes)
  | [] => .ok []
  | id :: rest => do
    let c ← catalog.require build id
    let more ← strings rest
    return (c.kind.string?.map Bytes.ofString).toList ++ more

/-- The entries for checks behind `used` strings, and the seeds that are left. -/
def entries : List CheckId → Nat → SeedStream → Except Fault (List Entry) × SeedStream
  | [], _, seeds => (.ok [], seeds)
  | id :: rest, used, seeds =>
    match catalog.require build id with
    | .error fault => (.error fault, seeds)
    | .ok c =>
      match entryOf? c.kind used seeds with
      | none => (.error (.config .tooManyStrings), seeds)
      | some (entry, used, seeds) =>
        let (more, seeds) := entries rest used seeds
        (more.map (entry :: ·), seeds)

/-- The content of the challenge for a cycle, and the seeds that are left. -/
def request (selection : Selection) (seeds : SeedStream) : Except Fault Request × SeedStream :=
  match strings catalog build selection.secondary with
  | .error fault => (.error fault, seeds)
  | .ok texts =>
    let (result, seeds) := entries catalog build selection.inFlight 0 seeds
    (result.map fun entries => ⟨texts, entries⟩, seeds)

/-- The challenge for a cycle, and the seeds that are left. -/
def ofSelection (selection : Selection) (mask : UInt8) (seeds : SeedStream) :
    Except Fault Challenge × SeedStream :=
  let (result, seeds) := request catalog build selection seeds
  (result.map fun r => ⟨r.payload mask, selection.inFlight⟩, seeds)

/-- The events of building a challenge, given how it ended. -/
def events : Except Fault Challenge → List Event
  | .ok challenge => [.challengeBuilt build challenge.inFlight]
  | .error fault => fault.events

end Challenge

end Attest
