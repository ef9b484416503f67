import Attest.Challenge
import Attest.Load

/-!
# Inspection

The command line tool that looks over check files, configurations and manifests before they are
used. `Inspect.run` answers its exit code and all that it prints, given a way to read files and
the seeds of a trial challenge.
-/

namespace Attest

namespace Inspect

/-- What the tool is asked to look over. -/
structure Options where
  /-- The check file. -/
  checks : String
  config : Option String
  manifest : Option String
  /-- The build to try a challenge for. -/
  build : Option Build
  /-- Whether every check is listed. -/
  verbose : Bool
  deriving DecidableEq, Repr

namespace Options

/-- The argument behind the first one that is `name`. -/
def argumentOf? (name : String) : List String → Option String
  | [] => none
  | arg :: rest => if arg = name then rest.head? else argumentOf? name rest

/-- The number that decimal digits spell, a plus in front allowed, if a word of two bytes holds
it. -/
def parseBuild? (arg : String) : Option Build :=
  let digits := match arg.toList with
    | '+' :: digits => digits
    | digits => digits
  if digits = [] ∨ ¬ digits.all Char.isDigit then none
  else
    let n := digits.foldl (fun n c => n * 10 + (c.toNat - 48)) 0
    if n < UInt16.size then some (UInt16.ofNat n) else none

/-- The options of a command line; there are none without an argument. A name counts wherever it
stands, and the first argument names the check file whatever it is. -/
def ofArguments? : List String → Option Options
  | [] => none
  | checks :: rest =>
    let args := checks :: rest
    some {
      checks
      config := argumentOf? "--config" args
      manifest := argumentOf? "--module" args
      build := (argumentOf? "--build" args).bind parseBuild?
      verbose := "--verbose" ∈ args }

end Options

/-! ### Lines -/

/-- What is printed first. -/
def banner : List String :=
  ["╔══════════════════════════════════════════════════════════════════╗",
   "║         WARDEN CATALOG INSPECTOR                                 ║",
   "║         THE INTEGRITY ENGINE                                     ║",
   "╚══════════════════════════════════════════════════════════════════╝",
   ""]

/-- What is printed if nothing is asked. -/
def usage : List String :=
  ["Usage: catalog_inspector <checks.toml>",
   "",
   "Options:",
   "  --config <file>    Validate an engine config",
   "  --module <file>    Load a module manifest",
   "  --build <id>       Dry-run one challenge for a build",
   "  --verbose          List every check"]

/-- The lower edge of a box. -/
def boxEnd : String :=
  "└──────────────────────────────────────────────────────────────────┘"

/-- The names of the kinds, in alphabetical order. -/
def kindNames : List String :=
  ["driver", "lua_string", "memory", "module", "mpq", "page_a", "page_b"]

/-- A line for each kind that occurs among checks. -/
def kindLines (checks : List Check) : List String :=
  let counts := kindNames.map fun name => (name, checks.countP (·.kind.name = name))
  (counts.filter (·.2 ≠ 0)).map fun (name, count) =>
    "│   " ++ Text.padRight 16 name ++ s!" {count}"

/-- The line of a check. -/
def checkLine (c : Check) : String :=
  "│   #" ++ Text.padRight 5 (toString c.id) ++ " " ++ Text.padRight 10 c.kind.name ++ " "
    ++ c.comment

/-- The lines of a build. -/
def buildLines (catalog : Catalog) (verbose : Bool) (build : Build) : List String :=
  let count (pool : Pool) := Text.padLeft 3 (toString (catalog.poolIds build pool).length)
  let checks := catalog.definitions build
  ("│ Build " ++ Text.padRight 6 (toString build) ++ "        primary " ++ count .primary
      ++ ", secondary " ++ count .secondary)
    :: kindLines checks ++ (if verbose then checks.map checkLine else [])

/-- The box of a catalog. -/
def catalogBox (catalog : Catalog) (verbose : Bool) : List String :=
  ["", "┌─ CATALOG ────────────────────────────────────────────────────────┐",
    s!"│ Checks:             {catalog.size}"]
    ++ catalog.builds.flatMap (buildLines catalog verbose) ++ [boxEnd]

/-- The box of a module. -/
def moduleBox (image : ModuleImage) : List String :=
  ["", "┌─ MODULE ─────────────────────────────────────────────────────────┐",
    s!"│ Size:               {image.blob.length} bytes",
    "│ Fingerprint:        " ++ Hex.encode image.fingerprint.toList, boxEnd]

/-- The box of a trial challenge. -/
def challengeBox (build : Build) (c : Challenge) : List String :=
  ["", s!"┌─ DRY RUN (build {build}) ───────────────────────────────────────────┐",
    "│ Checks:             " ++ Event.idList c.inFlight,
    s!"│ Payload:            {c.payload.length} bytes", boxEnd]

/-- A challenge as a session would build it for its first cycle, with the mask 0. -/
def trialChallenge (catalog : Catalog) (config : Config) (build : Build) (seeds : SeedStream) :
    Except Fault Challenge :=
  let (shuffleSeed, seeds) := seeds.next64
  let (selection, _) := (Scheduler.start config.scheduling shuffleSeed).nextCycle catalog build
  (Challenge.ofSelection catalog build selection 0 seeds).1

/-! ### The run -/

/-- The exit code and the printed lines. -/
structure Report where
  exitCode : UInt8
  lines : List String
  deriving DecidableEq, Repr

variable {m : Type → Type} [Monad m]

/-- Looking things over prints lines, and stops at the first fault. -/
abbrev Printing (m : Type → Type) := ExceptT Fault (StateT (List String) m)

/-- Prints lines. -/
def say (lines : List String) : Printing m Unit :=
  modify (· ++ lines)

/-- Does what prints nothing. -/
def attempt {α : Type} (action : ExceptT Fault m α) : Printing m α :=
  ExceptT.mk fun lines => do
    let result ← action.run
    return (result, lines)

/-- Looks over what the options name. -/
def inspect (files : Files m) (seeds : SeedStream) (options : Options) : Printing m Unit := do
  say ["Loading catalog: " ++ options.checks]
  let catalog ← attempt (Load.catalog files options.checks)
  say (catalogBox catalog options.verbose)
  let config ← match options.config with
    | some path => do
      let config ← attempt (Load.config files path)
      say ["", "✓ Config " ++ path ++ " is valid"]
      pure config
    | none => pure {}
  if let some path := options.manifest then
    say (moduleBox (← attempt (ModuleImage.load files path)))
  if let some build := options.build then
    say (challengeBox build (← attempt (ExceptT.mk (pure
      (trialChallenge catalog config build seeds)))))
  say ["", "✓ Catalog is consistent"]

/-- The line of a fault. The wording for a document that was refused is left open. -/
def faultLine (fault : Fault) : String :=
  "Error: " ++ fault.message?.getD "<toml>"

/-- Runs the tool with the arguments behind its name. -/
def run (files : Files m) (seeds : SeedStream) (arguments : List String) : m Report := do
  match Options.ofArguments? arguments with
  | none => return ⟨0, banner ++ usage⟩
  | some options =>
    let (result, lines) ← (inspect files seeds options).run banner
    match result with
    | .ok () => return ⟨0, lines⟩
    | .error fault => return ⟨1, lines ++ [faultLine fault]⟩

end Inspect

end Attest
