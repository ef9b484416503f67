import Attest.Catalog
import Attest.Event
import Attest.Hash.Sha1

/-!
# Responses

The answer to a challenge, behind its opcode:

| part          | bytes                                                            |
|---------------|------------------------------------------------------------------|
| header        | number of covered bytes (2), their checksum (4)                  |
| timing probe  | passed (1), ticks (4)                                            |
| entries       | one for each check of the challenge, in its order                |

No entry tells which check it answers, so every entry is read in full, whether it passes or not:
the next one starts where it ends. `Response.examine` says how far an answer could be read; the
outcome and the events both follow from that.
-/

namespace Attest

namespace Response

open Wire (Reader Cursor Truncated)

/-! ### Entries -/

/-- The verdict on bytes that were read from memory. -/
def judgeMemory (expected : Bytes) (status : UInt8) (read : Bytes) : Bool × Option Note :=
  if status ≠ 0 then (false, some (.status status))
  else if read ≠ expected then (false, some (.bytes read))
  else (true, none)

/-- The verdict on the digest of an archive file. -/
def judgeDigest (expected : Bytes) (status : UInt8) (digest : Bytes) : Bool × Option Note :=
  if status ≠ 0 then (false, some (.status status)) else (digest = expected, none)

/-- The note on a text that was read; an empty one is not noted. -/
def textNote? (text : Bytes) : Option Note :=
  if text = [] then none else some (.text (Utf8.decodeTolerant text))

/-- Reads the answer of a search. -/
def readSearch : Reader (Bool × Option Note) := do
  let answer ← Reader.byte
  return (answer = Wire.cleanSentinel, none)

/-- Reads the answer to a check of a kind. A script global follows its status only if that is
zero; all other parts are there whatever the status is. -/
def readAnswer : Check.Kind → Reader (Bool × Option Note)
  | .memory _ length expected => do
    let status ← Reader.byte
    let read ← Reader.raw length.toNat
    return judgeMemory expected status read
  | .mpq _ expected => do
    let status ← Reader.byte
    let digest ← Reader.raw 20
    return judgeDigest expected.toList status digest
  | .luaString _ => do
    let status ← Reader.byte
    if status = 0 then
      let text ← Reader.short
      return (true, textNote? text)
    else return (false, some (.status status))
  | .pageA .. => readSearch
  | .pageB .. => readSearch
  | .driver .. => readSearch
  | .module .. => readSearch

/-- Reads the answer to a check. -/
def readVerdict (c : Check) : Reader Verdict := do
  let (passed, note) ← readAnswer c.kind
  return ⟨c.id, c.kind.tag, passed, note⟩

/-- The entries of an answer as far as they could be read. -/
structure Readout where
  verdicts : List Verdict
  /-- The check whose entry the bytes do not hold, if there is one. -/
  cut : Option (CheckId × Truncated)
  /-- How many bytes were not read. -/
  trailing : Nat
  deriving DecidableEq, Repr

/-- Reads the entries for checks. -/
def readEntries (c : Cursor) : List Check → Readout
  | [] => ⟨[], none, c.remaining⟩
  | check :: rest =>
    match readVerdict check c with
    | .error cause c => ⟨[], some (check.id, cause), c.remaining⟩
    | .ok verdict c =>
      let readout := readEntries c rest
      { readout with verdicts := verdict :: readout.verdicts }

/-! ### Answers -/

/-- How far an answer could be read. -/
inductive Examination where
  /-- The header is not complete. -/
  | unframed (cause : Truncated)
  /-- The header covers more bytes than there are. -/
  | overlong (length : UInt16) (available : Nat)
  /-- The checksum is not that of the covered bytes. -/
  | damaged (length : UInt16)
  /-- The timing probe is not complete. -/
  | untimed (cause : Truncated)
  /-- The entries were read. -/
  | entries (timing : TimingSample) (readout : Readout)
  deriving DecidableEq, Repr

/-- Reads the number of covered bytes and their checksum. -/
def readHeader : Reader (UInt16 × UInt32) := do
  let length ← Reader.word16
  let sum ← Reader.word32
  return (length, sum)

/-- Reads the answer to the timing probe. -/
def readTiming (elapsed : UInt32) : Reader TimingSample := do
  let flag ← Reader.byte
  let ticks ← Reader.word32
  return ⟨flag ≠ 0, ticks, elapsed⟩

/-- Reads the covered bytes. -/
def examineCovered (checks : List Check) (covered : Bytes) (elapsed : UInt32) : Examination :=
  match readTiming elapsed (Cursor.start covered) with
  | .error cause _ => .untimed cause
  | .ok timing c => .entries timing (readEntries c checks)

/-- Reads an answer to a challenge with these checks. -/
def examine (checks : List Check) (body : Bytes) (elapsed : UInt32) : Examination :=
  match readHeader (Cursor.start body) with
  | .error cause _ => .unframed cause
  | .ok (length, sum) c =>
    if c.remaining < length.toNat then .overlong length c.remaining
    else
      let covered := c.rest.take length.toNat
      if checksum covered = sum then examineCovered checks covered elapsed
      else .damaged length

/-- What the answer is found to be. -/
def Examination.outcome : Examination → Outcome
  | unframed cause => .malformed cause
  | overlong _ _ => .checksumMismatch
  | damaged _ => .checksumMismatch
  | untimed cause => .malformed cause
  | entries timing readout =>
    match readout.cut with
    | some (_, cause) => .malformed cause
    | none => .decoded ⟨timing, readout.verdicts, readout.trailing⟩

/-! ### Events -/

/-- The events of a verdict. -/
def verdictEvents (v : Verdict) : List Event :=
  if v.passed then
    match v.note with
    | some (.text text) => [.textRead v.id text, .checkPassed v.id v.tag]
    | _ => [.checkPassed v.id v.tag]
  else [.checkFailed v.id v.tag v.note]

/-- The event at the end of the entries, if there is one. -/
def Readout.endEvents (r : Readout) : List Event :=
  match r.cut with
  | some (id, cause) => [.responseCut id cause]
  | none => if r.trailing = 0 then [] else [.responseTrailing r.trailing]

/-- The events of reading an answer. -/
def Examination.events : Examination → List Event
  | unframed _ => []
  | overlong length available => [.responseOverlong length available]
  | damaged length => [.responseDamaged length]
  | untimed _ => []
  | entries timing readout =>
    .timingRead timing :: (if timing.passed then [] else [.timingFailed])
      ++ readout.verdicts.flatMap verdictEvents ++ readout.endEvents

/-! ### Validation -/

/-- The checks with these ids, up to the first that the catalog does not have. -/
def requireAll (catalog : Catalog) (build : Build) : List CheckId → Except Fault (List Check)
  | [] => .ok []
  | id :: rest => do
    let c ← catalog.require build id
    let checks ← requireAll catalog build rest
    return c :: checks

/-- Reads the answer to a challenge with the checks of these ids. -/
def validate (catalog : Catalog) (build : Build) (ids : List CheckId) (body : Bytes)
    (elapsed : UInt32) : Except Fault Examination := do
  let checks ← requireAll catalog build ids
  return examine checks body elapsed

/-- The events of reading an answer, given how it ended. -/
def events : Except Fault Examination → List Event
  | .ok examination => examination.events
  | .error fault => fault.events

end Response

end Attest
