import Attest.Proofs.Response.Grammar

/-!
# Answers that are cut off or go on

A client that frames too few of its bytes gives them the right length and the right checksum, so the
frame does not tell. The entries do: none is the beginning of another one, so bytes that hold all of
them hold the same ones whatever follows, and bytes that lack a part of the last one still do if
more are taken away.

* `Response.examineCovered_append` : bytes behind an answer are surplus;
* `Response.decoded_or_cut` : in a frame an answer is read or found cut, and a cut is always a read
  that needed more bytes than remained;
* `Response.truncation_detected` : **an answer that is cut off is always found out, and one that
  goes on is found the same but for its surplus**.
-/

namespace Attest

namespace Response

open Wire (Cursor)
open Wire.Reader (FailsShort failsShort_byte failsShort_pure failsShort_raw failsShort_short
  failsShort_word32)

/-! ### Reads that fail -/

theorem failsShort_readSearch : FailsShort readSearch :=
  failsShort_byte.bind fun _ => failsShort_pure _

theorem failsShort_readAnswer (kind : Check.Kind) : FailsShort (readAnswer kind) := by
  cases kind with
  | memory | mpq =>
    exact failsShort_byte.bind fun _ => (failsShort_raw _).bind fun _ => failsShort_pure _
  | luaString global =>
    refine failsShort_byte.bind fun status => ?_
    split
    · exact failsShort_short.bind fun _ => failsShort_pure _
    · exact failsShort_pure _
  | pageA | pageB | driver | module => exact failsShort_readSearch

theorem failsShort_readVerdict (check : Check) : FailsShort (readVerdict check) :=
  (failsShort_readAnswer check.kind).bind fun _ => failsShort_pure _

theorem failsShort_readTiming (elapsed : UInt32) : FailsShort (readTiming elapsed) :=
  failsShort_byte.bind fun _ => failsShort_word32.bind fun _ => failsShort_pure _

/-- A row of entries is cut where an entry needs more bytes than remain. -/
theorem lt_needed_of_cut {checks : List Check} {c : Cursor} {id : CheckId}
    {cause : Wire.Truncated} (cut : (readEntries c checks).cut = some (id, cause)) :
    cause.remaining < cause.needed := by
  induction checks generalizing c with
  | nil => cases cut
  | cons check rest ih =>
    rw [readEntries] at cut
    cases read : readVerdict check c with
    | error cause' c₁ =>
      rw [read] at cut
      cases cut
      exact failsShort_readVerdict check read
    | ok verdict c₁ =>
      rw [read] at cut
      exact ih cut

/-! ### Covered bytes -/

variable {checks : List Check} {covered : Bytes} {elapsed : UInt32}

/-- Covered bytes hold an answer, or they lack a part of one. -/
theorem decoded_or_cut (checks : List Check) (covered : Bytes) (elapsed : UInt32) :
    (∃ r, (examineCovered checks covered elapsed).outcome = .decoded r) ∨
      ∃ cause, (examineCovered checks covered elapsed).outcome = .malformed cause ∧
        cause.remaining < cause.needed := by
  rw [examineCovered]
  cases timed : readTiming elapsed (Cursor.start covered) with
  | error cause c => exact .inr ⟨cause, rfl, failsShort_readTiming elapsed timed⟩
  | ok timing c =>
    cases cut : (readEntries c checks).cut with
    | none =>
      refine .inl ⟨⟨timing, (readEntries c checks).verdicts, (readEntries c checks).trailing⟩, ?_⟩
      simp only [Examination.outcome, cut]
    | some place =>
      obtain ⟨id, cause⟩ := place
      exact .inr ⟨cause, by simp only [Examination.outcome, cut], lt_needed_of_cut cut⟩

/-- What follows an answer is its surplus. -/
theorem examineCovered_append {r : Report} (more : Bytes)
    (decoded : (examineCovered checks covered elapsed).outcome = .decoded r) :
    (examineCovered checks (covered ++ more) elapsed).outcome =
      .decoded { r with trailing := r.trailing + more.length } := by
  obtain ⟨a, fit, rfl, rfl⟩ := examineCovered_decoded_iff.1 decoded
  refine examineCovered_decoded_iff.2 ⟨{ a with surplus := a.surplus ++ more }, fit, ?_, ?_⟩
  · simp [Answer.covered]
  · simp [Answer.report]

/-- If bytes lack a part of an answer, so does each beginning of them. -/
theorem not_decoded_of_front {front : Bytes} (begins : front <+: covered)
    (cut : ∀ r, (examineCovered checks covered elapsed).outcome ≠ .decoded r) (r : Report) :
    (examineCovered checks front elapsed).outcome ≠ .decoded r := by
  obtain ⟨more, rfl⟩ := begins
  exact fun decoded => cut _ (examineCovered_append more decoded)

/-- If bytes hold an answer without surplus, each shorter beginning of them lacks a part of it. -/
theorem not_decoded_of_strict_front {front : Bytes} {whole : Report}
    (decoded : (examineCovered checks covered elapsed).outcome = .decoded whole)
    (exact : whole.trailing = 0) (begins : front <+: covered) (shorter : front ≠ covered)
    (r : Report) : (examineCovered checks front elapsed).outcome ≠ .decoded r := by
  obtain ⟨more, rfl⟩ := begins
  intro early
  -- what is behind the shorter answer would be surplus of the longer one
  rw [examineCovered_append more early, Outcome.decoded.injEq] at decoded
  subst decoded
  have none : more = [] := List.length_eq_zero_iff.1 (Nat.eq_zero_of_add_eq_zero_left exact)
  rw [none, List.append_nil] at shorter
  exact shorter rfl

/-! ### Validation -/

/-- Whether an answer to the checks with these ids is found to be this. -/
def Finds (catalog : Catalog) (build : Build) (ids : List CheckId) (body : Bytes)
    (elapsed : UInt32) (outcome : Outcome) : Prop :=
  (validate catalog build ids body elapsed).map Examination.outcome = .ok outcome

/-- Whether an answer is found malformed for bytes that it lacks, and is found to be nothing else.
-/
def FindsCut (catalog : Catalog) (build : Build) (ids : List CheckId) (body : Bytes)
    (elapsed : UInt32) : Prop :=
  ∃ cause, cause.remaining < cause.needed ∧
    ∀ outcome, Finds catalog build ids body elapsed outcome ↔ outcome = .malformed cause

variable {catalog : Catalog} {build : Build} {ids : List CheckId}

theorem finds_frame_iff (defined : catalog.Defines build ids checks)
    (bound : covered.length ≤ 65535) {outcome : Outcome} :
    Finds catalog build ids (frame covered) elapsed outcome ↔
      outcome = (examineCovered checks covered elapsed).outcome := by
  have read := examine_frame checks [] bound elapsed
  rw [List.append_nil] at read
  rw [Finds, validate, requireAll_of_defined defined]
  change Except.ok (examine checks (frame covered) elapsed).outcome = .ok outcome ↔ _
  rw [read, Except.ok.injEq, eq_comm]

/-- A frame in which no answer is read is found cut. -/
theorem findsCut_of_not_decoded (defined : catalog.Defines build ids checks)
    (bound : covered.length ≤ 65535)
    (cut : ∀ r, (examineCovered checks covered elapsed).outcome ≠ .decoded r) :
    FindsCut catalog build ids (frame covered) elapsed := by
  rcases decoded_or_cut checks covered elapsed with ⟨r, decoded⟩ | ⟨cause, malformed, lacks⟩
  · exact absurd decoded (cut r)
  · refine ⟨cause, lacks, fun outcome => ?_⟩
    rw [finds_frame_iff defined bound, malformed]

/-- **A cut is always detected, and what follows an answer changes no verdict.** Let all checks in
flight be defined, and let bytes be framed with their right length and their right checksum. If an
answer is read without surplus, every shorter beginning of the bytes, framed as rightly, is found
malformed for bytes that it lacks. If an answer is read and more bytes are framed behind it, the
same answer is read with as many more bytes of surplus. And if the bytes are found malformed, so is
every beginning of them. -/
theorem truncation_detected (defined : catalog.Defines build ids checks)
    (bound : covered.length ≤ 65535) (elapsed : UInt32) :
    (∀ r, Finds catalog build ids (frame covered) elapsed (.decoded r) → r.trailing = 0 →
      ∀ front, front <+: covered → front ≠ covered →
        FindsCut catalog build ids (frame front) elapsed) ∧
    (∀ r more, Finds catalog build ids (frame covered) elapsed (.decoded r) →
      (covered ++ more).length ≤ 65535 →
      ∃ r', Finds catalog build ids (frame (covered ++ more)) elapsed (.decoded r') ∧
        r'.timing = r.timing ∧ r'.verdicts = r.verdicts ∧ r'.firstFailure? = r.firstFailure? ∧
        r'.trailing = r.trailing + more.length) ∧
    (∀ cause, Finds catalog build ids (frame covered) elapsed (.malformed cause) →
      ∀ front, front <+: covered → FindsCut catalog build ids (frame front) elapsed) := by
  have shorter {front : Bytes} (begins : front <+: covered) : front.length ≤ 65535 :=
    Nat.le_trans begins.length_le bound
  refine ⟨?_, ?_, ?_⟩
  · intro r found exact front begins strict
    have decoded := (finds_frame_iff defined bound).1 found
    exact findsCut_of_not_decoded defined (shorter begins)
      (not_decoded_of_strict_front decoded.symm exact begins strict)
  · intro r more found room
    have decoded := (finds_frame_iff defined bound).1 found
    refine ⟨{ r with trailing := r.trailing + more.length }, ?_, rfl, rfl, rfl, rfl⟩
    rw [finds_frame_iff defined room, examineCovered_append more decoded.symm]
  · intro cause found front begins
    have malformed := (finds_frame_iff defined bound).1 found
    refine findsCut_of_not_decoded defined (shorter begins)
      (not_decoded_of_front begins fun r decoded => ?_)
    rw [decoded] at malformed
    cases malformed

/-- A script's answer that is framed without its last letter is found cut, and one with a byte more
keeps its verdicts. -/
theorem sample_truncation :
    ∃ r r', Finds Catalog.sample 5875 [7, 1, 5]
        (frame [1, 99, 0, 0, 0, 0xE9, 0, 0x74, 0x0F, 0, 3, 0x4F, 0x72, 0x63]) 40 (.decoded r) ∧
      r.trailing = 0 ∧
      FindsCut Catalog.sample 5875 [7, 1, 5]
        (frame [1, 99, 0, 0, 0, 0xE9, 0, 0x74, 0x0F, 0, 3, 0x4F, 0x72]) 40 ∧
      Finds Catalog.sample 5875 [7, 1, 5]
        (frame [1, 99, 0, 0, 0, 0xE9, 0, 0x74, 0x0F, 0, 3, 0x4F, 0x72, 0x63, 0xFF]) 40
        (.decoded r') ∧
      r'.verdicts = r.verdicts ∧ r'.trailing = 1 := by
  let checks := Catalog.sample.found 5875 [7, 1, 5]
  have defined : Catalog.sample.Defines 5875 [7, 1, 5] checks :=
    .cons rfl (.cons rfl (.cons rfl .nil))
  let a : Answer := ⟨1, 99, [.search 0xE9, .memory 0 [0x74, 0x0F], .text [0x4F, 0x72, 0x63]], []⟩
  have fit : Fit checks a.entries :=
    .cons (.search trivial) (.cons (.memory rfl) (.cons (.text (by decide)) .nil))
  have bytes : a.covered = [1, 99, 0, 0, 0, 0xE9, 0, 0x74, 0x0F, 0, 3, 0x4F, 0x72, 0x63] := by
    decide
  have bound : a.covered.length ≤ 65535 := by decide
  have found : Finds Catalog.sample 5875 [7, 1, 5] (frame a.covered) 40
      (.decoded (a.report checks 40)) :=
    (finds_frame_iff defined bound).2 (examineCovered_decoded_iff.2 ⟨a, fit, rfl, rfl⟩).symm
  rw [bytes] at bound found
  obtain ⟨shorter, longer, -⟩ := truncation_detected defined bound 40
  have cut := shorter _ found rfl [1, 99, 0, 0, 0, 0xE9, 0, 0x74, 0x0F, 0, 3, 0x4F, 0x72]
    (by decide) (by decide)
  obtain ⟨r', found', -, verdicts, -, trailing⟩ := longer _ [0xFF] found (by decide)
  exact ⟨_, r', found, rfl, cut, found', verdicts, trailing⟩

end Response

end Attest
