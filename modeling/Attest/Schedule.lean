import Attest.Catalog
import Attest.Config
import Attest.Event
import Attest.Random.Shuffle

/-!
# The schedule of checks

A session keeps a stock of checks for each pool. A stock that is empty when a cycle begins is
filled with all checks of its pool; then each stock is drawn from at its end, up to the pool's
quota. A stock that runs out during a cycle just gives fewer checks, so from one filling to the
next every check is drawn once.
-/

namespace Attest

/-- The checks of a cycle. -/
structure Selection where
  /-- The primary checks, as drawn. -/
  primary : List CheckId
  /-- The secondary checks, as drawn. -/
  secondary : List CheckId
  deriving DecidableEq, Repr

namespace Selection

/-- All checks, in the order of the challenge. -/
def inFlight (s : Selection) : List CheckId :=
  s.primary ++ s.secondary

/-- The entries of the challenge: the timing probe, written `none`, and the checks. -/
def entries (s : Selection) : List (Option CheckId) :=
  none :: s.inFlight.map some

/-- The number of checks. -/
def size (s : Selection) : Nat :=
  s.primary.length + s.secondary.length

end Selection

/-- The stocks of a session. -/
structure Scheduler where
  primaryQuota : Nat
  secondaryQuota : Nat
  /-- The primary checks that were not drawn since the last filling. -/
  primary : List CheckId
  /-- The secondary checks that were not drawn since the last filling. -/
  secondary : List CheckId
  /-- What the stocks are shuffled with, if they are. -/
  shuffler : Option SeedStream
  deriving DecidableEq

namespace Scheduler

/-- Empty stocks. The seed is used only if the stocks are to be shuffled. -/
def start (config : Config.Scheduling) (seed : UInt64) : Scheduler where
  primaryQuota := config.primaryQuota
  secondaryQuota := config.secondaryQuota
  primary := []
  secondary := []
  shuffler := if config.shuffle then some (SeedStream.ofSeed seed) else none

/-- The stock of a pool. -/
def stock (s : Scheduler) : Pool → List CheckId
  | .primary => s.primary
  | .secondary => s.secondary

/-- A stock at the start of a cycle: as it is, or, if it is empty, with the ids of its pool. -/
def filled (ids stock : List CheckId) (shuffler : Option SeedStream) :
    List CheckId × Option SeedStream :=
  if stock = [] then
    match shuffler with
    | none => (ids, none)
    | some seeds =>
      let (ids, seeds) := seeds.shuffle ids
      (ids, some seeds)
  else (stock, shuffler)

/-- What is drawn from the end of a stock, the last one first, and what stays. -/
def draw (quota : Nat) (stock : List CheckId) : List CheckId × List CheckId :=
  let kept := stock.length - quota
  ((stock.drop kept).reverse, stock.take kept)

/-- The checks of the next cycle, and the stocks after it. -/
def nextCycle (catalog : Catalog) (build : Build) (s : Scheduler) : Selection × Scheduler :=
  let (primary, shuffler) := filled (catalog.poolIds build .primary) s.primary s.shuffler
  let (secondary, shuffler) := filled (catalog.poolIds build .secondary) s.secondary shuffler
  let (drawnPrimary, primary) := draw s.primaryQuota primary
  let (drawnSecondary, secondary) := draw s.secondaryQuota secondary
  (⟨drawnPrimary, drawnSecondary⟩, { s with primary, secondary, shuffler })

/-- The events of the next cycle: the stocks that it fills. -/
def refillEvents (catalog : Catalog) (build : Build) (s : Scheduler) : List Event :=
  ([Pool.primary, .secondary].filter fun pool => s.stock pool = []).map fun pool =>
    .poolRefilled pool build (catalog.poolIds build pool).length

end Scheduler

end Attest
