import Attest.Inspect

/-!
# The command line

Reads the files on disk for `Inspect.run` and prints what it answers.
-/

namespace Attest

/-- Reads a file on disk. -/
def readFromDisk : Files IO := fun path => do
  try
    let contents ← IO.FS.readBinFile path
    return .ok contents.data.toList
  catch e =>
    match e with
    | .noFileOrDirectory .. => return .error .missing
    | e => return .error (.other (toString e))

/-- The seeds of a run, from the system. -/
def systemSeeds : IO SeedStream := do
  let noise ← IO.getRandomBytes 32
  let words := Bytes.words32 noise.data.toList
  return ⟨Vector.ofFn fun i => words.getD i.val 0, 0⟩

end Attest

/-- Runs the tool. -/
def main (arguments : List String) : IO UInt32 := do
  let seeds ← Attest.systemSeeds
  let report ← Attest.Inspect.run Attest.readFromDisk seeds arguments
  for line in report.lines do
    IO.println line
  return report.exitCode.toUInt32
