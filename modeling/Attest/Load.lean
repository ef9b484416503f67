import Attest.Catalog
import Attest.CheckStore
import Attest.Event
import Attest.ModuleImage.Manifest

/-!
# Loading

What the engine runs on is loaded once, before the first session starts: the catalog from a check
file, the configuration, and the module from its manifest, which `ModuleImage.load` reads. The
events of loading follow from how it ended.
-/

namespace Attest

namespace Load

variable {m : Type → Type} [Monad m]

/-- Loads the rows of a check file. -/
def rows (files : Files m) (path : String) : ExceptT Fault m (List Check.Row) := do
  let text ← files.text path
  ExceptT.mk (pure (CheckStore.ofText text))

/-- Loads the catalog of a check file. -/
def catalog (files : Files m) (path : String) : ExceptT Fault m Catalog := do
  let rows ← rows files path
  ExceptT.mk (pure (Catalog.ofRows rows))

/-- Loads a configuration. -/
def config (files : Files m) (path : String) : ExceptT Fault m Config := do
  let text ← files.text path
  ExceptT.mk (pure (Config.ofText text))

/-- The events of loading rows. -/
def rowEvents (path : String) : Except Fault (List Check.Row) → List Event
  | .ok rows => [.rowsRead rows.length path]
  | .error _ => []

/-- The events of loading a catalog, behind those of its rows. -/
def catalogEvents : Except Fault Catalog → List Event
  | .ok catalog => [.catalogLoaded catalog.size catalog.builds.length]
  | .error _ => []

/-- The events of loading a module. -/
def imageEvents : Except Fault ModuleImage → List Event
  | .ok image => [.imageLoaded image.blob.length image.fingerprint]
  | .error _ => []

end Load

end Attest
