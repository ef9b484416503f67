import Attest.Check
import Attest.Bytes.Hex
import Attest.Text.Utf8
import Attest.Wire.Cursor

/-!
# Reports

What an answer to a challenge is found to be: damaged, malformed, or a report with the timing
probe and one verdict for each check of the challenge.
-/

namespace Attest

/-- The answer to the timing probe. -/
structure TimingSample where
  passed : Bool
  /-- The tick count that the client tells. -/
  ticks : UInt32
  /-- The server's time from the challenge to the answer, in milliseconds. -/
  elapsed : UInt32
  deriving DecidableEq, Repr

/-- The sum of the two times, modulo the word; for diagnosis only. A sample tells it by its two
times, so it is not kept beside them. -/
def TimingSample.skew (t : TimingSample) : UInt32 :=
  t.ticks + t.elapsed

/-- What a client said that is worth a note. -/
inductive Note where
  /-- It could not look. -/
  | status (byte : UInt8)
  /-- It read other bytes than expected. -/
  | bytes (read : Bytes)
  /-- It read this text. -/
  | text (read : String)
  deriving DecidableEq, Repr

/-- The note in words. -/
def Note.message : Note → String
  | status byte => "status " ++ Text.byteLiteral byte
  | bytes read => "read " ++ Hex.encode read
  | text read => read

/-- The verdict on one check. -/
structure Verdict where
  id : CheckId
  /-- The kind of the check. -/
  tag : Wire.Tag
  /-- The client answered as an untampered one does. -/
  passed : Bool
  note : Option Note
  deriving DecidableEq, Repr

/-- An answer that was read to its last entry. -/
structure Report where
  timing : TimingSample
  /-- One verdict for each check of the challenge, in its order. -/
  verdicts : List Verdict
  /-- How many bytes follow the last entry. -/
  trailing : Nat
  deriving DecidableEq, Repr

namespace Report

/-- The first failure behind a verdict, given the first one in front of it: a failure that was found
is kept. -/
def noteFailure (first : Option CheckId) (v : Verdict) : Option CheckId :=
  if v.passed then first else first.or (some v.id)

/-- The first check that failed. -/
def firstFailure? (r : Report) : Option CheckId :=
  r.verdicts.foldl noteFailure none

theorem foldl_noteFailure (verdicts : List Verdict) (first : Option CheckId) :
    verdicts.foldl noteFailure first = first.or ((verdicts.find? (!·.passed)).map (·.id)) := by
  induction verdicts generalizing first with
  | nil => simp
  | cons v rest ih =>
    rw [List.foldl_cons, ih, List.find?_cons, noteFailure]
    cases v.passed with
    | true => rfl
    | false => cases first <;> rfl

/-- It is that of the first verdict that is not passed. -/
theorem firstFailure?_eq_find? (r : Report) :
    r.firstFailure? = (r.verdicts.find? (!·.passed)).map (·.id) := by
  rw [firstFailure?, foldl_noteFailure, Option.none_or]

/-- Whether the probe and all checks passed. -/
def isClean (r : Report) : Bool :=
  r.timing.passed && r.firstFailure?.isNone

end Report

/-- What an answer is found to be. -/
inductive Outcome where
  /-- Its checksum does not fit its bytes. -/
  | checksumMismatch
  /-- Its bytes end before its last entry. -/
  | malformed (cause : Wire.Truncated)
  | decoded (report : Report)
  deriving DecidableEq, Repr

namespace Outcome

/-- The report, if the answer was read. -/
def report? : Outcome → Option Report
  | decoded r => some r
  | _ => none

/-- Whether the answer was read and all of it passed. -/
def isClean : Outcome → Bool
  | decoded r => r.isClean
  | _ => false

end Outcome

end Attest
