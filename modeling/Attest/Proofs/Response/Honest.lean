import Attest.Penalty
import Attest.Proofs.Response.Grammar
import Mathlib.Algebra.Order.BigOperators.Group.List
import Mathlib.Algebra.Order.Ring.Nat

/-!
# Honest answers

An answer is honest if the timing probe passed and each entry is the one of an untampered client
(`Response.Answer.Honest`). It is found clean (`Response.Answer.Honest.isClean`), and just the
clean answers deserve no penalty (`Penalty.judge_eq_none_iff`). To checks without a defect an
untampered client has such an answer (`Response.honest_untampered`), as long as it does not outgrow
its length; if that one does, so does every other clean answer
(`Response.leastCovered_le_of_clean`).
-/

namespace Attest

namespace Response

/-- Whether an answer is that of an untampered client. -/
structure Answer.Honest (checks : List Check) (a : Answer) : Prop where
  /-- The timing probe passed. -/
  flag : a.flag ≠ 0
  /-- Each entry passes its check. -/
  entries : List.Forall₂ (fun c e => Entry.Fits c.kind e ∧ e.passes c.kind = true) checks a.entries
  /-- Nothing follows the last entry. -/
  surplus : a.surplus = []
  bound : a.covered.length ≤ 65535

namespace Answer

variable {checks : List Check} {a : Answer}

theorem Honest.fit (h : a.Honest checks) : Fit checks a.entries :=
  h.entries.imp fun _ _ both => both.1

theorem Honest.outcome (h : a.Honest checks) (elapsed : UInt32) :
    (examine checks (frame a.covered) elapsed).outcome = .decoded (a.report checks elapsed) :=
  examine_decoded_iff.2 ⟨a, [], ⟨h.fit, h.bound, (List.append_nil _).symm⟩, rfl⟩

theorem passed_of_mem {checks : List Check} {entries : List Entry}
    (h : List.Forall₂ (fun c e => Entry.Fits c.kind e ∧ e.passes c.kind = true) checks entries) :
    ∀ v ∈ List.zipWith Entry.verdict checks entries, v.passed = true := by
  induction h with
  | nil => simp
  | cons passes _ ih =>
    intro v hv
    rw [List.zipWith_cons_cons] at hv
    rcases List.mem_cons.1 hv with rfl | hv
    · exact passes.2
    · exact ih v hv

theorem Honest.firstFailure? (h : a.Honest checks) (elapsed : UInt32) :
    (a.report checks elapsed).firstFailure? = none := by
  rw [Report.firstFailure?_eq_find?, Option.map_eq_none_iff, List.find?_eq_none]
  intro v hv
  rw [passed_of_mem h.entries v hv]
  decide

/-- The report on an honest answer is clean. -/
theorem Honest.isClean (h : a.Honest checks) (elapsed : UInt32) :
    (a.report checks elapsed).isClean = true := by
  rw [Report.isClean, h.firstFailure? elapsed]
  simp [report, h.flag]

theorem Honest.trailing (h : a.Honest checks) (elapsed : UInt32) :
    (a.report checks elapsed).trailing = 0 := by
  rw [report, h.surplus, List.length_nil]

end Answer

/-- What an untampered client finds. -/
def Entry.untampered : Check.Kind → Entry
  | .memory _ _ expected => .memory 0 expected
  | .mpq _ expected => .file 0 expected.toList
  | .luaString _ => .text []
  | _ => .search Wire.cleanSentinel

theorem length_expected_of_defect? {address : UInt32} {length : UInt8} {expected : Bytes}
    (sound : (Check.Kind.memory address length expected).defect? = none) :
    expected.length = length.toNat := by
  by_contra other
  have defect : Check.memoryDefect? length expected = none := sound
  unfold Check.memoryDefect? at defect
  split_ifs at defect

theorem untampered_passes {kind : Check.Kind} (sound : kind.defect? = none) :
    (Entry.untampered kind).Fits kind ∧ (Entry.untampered kind).passes kind = true := by
  cases kind with
  | memory =>
    exact ⟨.memory (length_expected_of_defect? sound), by simp [Entry.passes, Entry.untampered]⟩
  | mpq => exact ⟨.mpq Vector.length_toList, by simp [Entry.passes, Entry.untampered]⟩
  | luaString => exact ⟨.text (Nat.zero_le _), rfl⟩
  | pageA | pageB | driver | module => exact ⟨.search trivial, rfl⟩

/-- The answer of an untampered client. -/
def Answer.untampered (checks : List Check) : Answer :=
  ⟨1, 0, checks.map fun c => Entry.untampered c.kind, []⟩

/-! ### Room for an answer -/

/-- How many bytes an entry that passes has at least. -/
def Entry.leastLength : Check.Kind → Nat
  | .memory _ length _ => length.toNat + 1
  | .mpq .. => 21
  | .luaString .. => 2
  | _ => 1

/-- How many bytes a clean answer covers at least: the timing probe and an entry for each check. -/
def leastCovered (checks : List Check) : Nat :=
  5 + (checks.map fun c => Entry.leastLength c.kind).sum

theorem leastLength_le (kind : Check.Kind) : Entry.leastLength kind ≤ 256 := by
  cases kind with
  | memory address length expected =>
    have short := length.toNat_lt
    simp only [Entry.leastLength]
    omega
  | _ => simp [Entry.leastLength]

/-- An untampered client says as little as it can. -/
theorem length_untampered {kind : Check.Kind} (sound : kind.defect? = none) :
    (Entry.untampered kind).bytes.length = Entry.leastLength kind := by
  cases kind with
  | memory address length expected =>
    simp [Entry.untampered, Entry.bytes, Entry.leastLength, length_expected_of_defect? sound]
  | _ => simp [Entry.untampered, Entry.bytes, Entry.leastLength]

theorem leastLength_le_of_passes {kind : Check.Kind} {e : Entry} (fits : e.Fits kind)
    (passes : e.passes kind = true) : Entry.leastLength kind ≤ e.bytes.length := by
  cases fits with
  | memory length => simp [Entry.leastLength, Entry.bytes, length]
  | mpq length => simp [Entry.leastLength, Entry.bytes, length]
  | text => simp [Entry.leastLength, Entry.bytes]
  | silent => cases passes
  | @search kind answer searches => cases kind <;> first | exact Nat.le_refl 1 | cases searches

theorem sum_leastLength_le {checks : List Check} {k : Nat}
    (h : ∀ c ∈ checks, Entry.leastLength c.kind ≤ k) :
    (checks.map fun c => Entry.leastLength c.kind).sum ≤ k * checks.length := by
  have each := List.sum_le_card_nsmul (checks.map fun c => Entry.leastLength c.kind) k (by
    intro n hn
    obtain ⟨c, hc, rfl⟩ := List.mem_map.1 hn
    exact h c hc)
  rwa [List.length_map, Nat.nsmul_eq_mul, Nat.mul_comm] at each

theorem leastCovered_le_of_few {checks : List Check} (few : checks.length ≤ 255) :
    leastCovered checks ≤ 65535 := by
  have each := sum_leastLength_le fun c (_ : c ∈ checks) => leastLength_le c.kind
  rw [leastCovered]
  omega

theorem length_covered_untampered {checks : List Check} (sound : ∀ c ∈ checks, c.defect? = none) :
    (Answer.untampered checks).covered.length = leastCovered checks := by
  have entries : ((checks.map fun c => Entry.untampered c.kind).flatMap Entry.bytes).length =
      (checks.map fun c => Entry.leastLength c.kind).sum := by
    rw [List.length_flatMap, List.map_map]
    congr 1
    refine List.map_congr_left fun c hc => ?_
    exact length_untampered (Check.kindDefect?_of_defect? (sound c hc))
  simp only [Answer.covered, Answer.untampered, List.append_nil, List.length_cons,
    List.length_append, Bytes.length_le32, entries, leastCovered]
  omega

/-- An untampered client has an honest answer to each challenge that leaves room for one. -/
theorem honest_untampered {checks : List Check} (sound : ∀ c ∈ checks, c.defect? = none)
    (room : leastCovered checks ≤ 65535) : (Answer.untampered checks).Honest checks where
  flag := by simp [Answer.untampered]
  entries := by
    rw [Answer.untampered, List.forall₂_map_right_iff, List.forall₂_same]
    intro c hc
    exact untampered_passes (Check.kindDefect?_of_defect? (sound c hc))
  surplus := rfl
  bound := by rwa [length_covered_untampered sound]

/-- The entries of a clean answer pass, so none of them is shorter than it may be. -/
theorem sum_leastLength_le_of_passed {checks : List Check} {entries : List Entry}
    (fit : Fit checks entries)
    (clean : ∀ v ∈ List.zipWith Entry.verdict checks entries, v.passed = true) :
    (checks.map fun c => Entry.leastLength c.kind).sum ≤
      (entries.flatMap Entry.bytes).length := by
  induction fit with
  | nil => exact Nat.le_refl 0
  | @cons c e checks entries fits _ ih =>
    rw [List.zipWith_cons_cons, List.forall_mem_cons] at clean
    have here := leastLength_le_of_passes fits clean.1
    have later := ih clean.2
    simp only [List.map_cons, List.sum_cons, List.flatMap_cons, List.length_append]
    omega

/-- A body that is found clean had room for all entries. -/
theorem leastCovered_le_of_clean {checks : List Check} {body : Bytes} {elapsed : UInt32}
    (clean : (examine checks body elapsed).outcome.isClean = true) :
    leastCovered checks ≤ 65535 := by
  cases outcome : (examine checks body elapsed).outcome with
  | checksumMismatch | malformed =>
    rw [outcome] at clean
    cases clean
  | decoded r =>
    obtain ⟨a, junk, spells, rfl⟩ := examine_decoded_iff.1 outcome
    have passed : ∀ v ∈ List.zipWith Entry.verdict checks a.entries, v.passed = true := by
      rw [outcome, Outcome.isClean, Report.isClean, Bool.and_eq_true,
        Report.firstFailure?_eq_find?, Option.isNone_map, Option.isNone_iff_eq_none,
        List.find?_eq_none] at clean
      exact fun v hv => by simpa using clean.2 v hv
    have entries := sum_leastLength_le_of_passed spells.fit passed
    have bound := spells.bound
    simp only [Answer.covered, List.length_cons, List.length_append, Bytes.length_le32] at bound
    rw [leastCovered]
    omega

end Response

/-- An answer deserves no penalty just if it is clean. -/
theorem Penalty.judge_eq_none_iff {policy : Config.Penalties} {account : UInt32}
    {outcome : Outcome} {check : Option Check} :
    judge policy account outcome check = none ↔ outcome.isClean = true := by
  rw [judge, Option.map_eq_none_iff]
  cases outcome with
  | checksumMismatch | malformed => simp [reasonOf?, Outcome.isClean]
  | decoded r =>
    cases failure : r.firstFailure? with
    | some id => simp [reasonOf?, Outcome.isClean, Report.isClean, failure]
    | none => simp [reasonOf?, Outcome.isClean, Report.isClean, failure]

end Attest
