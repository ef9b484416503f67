import Attest.Proofs.Catalog
import Attest.Proofs.Response.Honest

/-!
# What a penalty says

The policy is a table from reasons to actions (`Config.Penalties.Prescribes`). In a configuration
that can be used it has one action for each reason, which is the one that is taken
(`Config.Penalties.prescribes_iff`).

* `Penalty.reasonOf?_eq_some_iff` : the reason of a decision is the one that the answer gives
  (`Penalty.Deserves`), so it is told by the first check that failed, and by the timing probe only
  if none did;
* `Penalty.consistent_decide` : **a decision is consistent with its reason** in its check, its
  action and its words (`Penalty.Consistent`).
-/

namespace Attest

/-! ### The policy -/

namespace Config

theorem repeated?_eq_none_iff {seen ids : List CheckId} :
    repeated? seen ids = none ↔ ids.Nodup ∧ ∀ id ∈ ids, id ∉ seen := by
  induction ids generalizing seen with
  | nil => simp [repeated?]
  | cons id rest ih =>
    rw [repeated?]
    by_cases known : id ∈ seen
    · simp [known]
    · rw [if_neg known, ih, List.nodup_cons]
      constructor
      · rintro ⟨nodup, apart⟩
        refine ⟨⟨fun again => apart id again List.mem_cons_self, nodup⟩, ?_⟩
        rintro other (_ | ⟨_, later⟩)
        · exact known
        · exact fun before => apart other later (List.mem_cons_of_mem _ before)
      · rintro ⟨⟨once, nodup⟩, apart⟩
        refine ⟨nodup, fun other later => ?_⟩
        rintro (_ | ⟨_, before⟩)
        · exact once later
        · exact apart other (List.mem_cons_of_mem _ later) before

/-- In a configuration that can be used no check has two actions of its own. -/
theorem nodup_overrides {config : Config} (accepted : config.fault? = none) :
    (config.penalties.overrides.map (·.check)).Nodup := by
  unfold fault? at accepted
  split_ifs at accepted
  exact (repeated?_eq_none_iff.1 (Option.map_eq_none_iff.1 accepted)).1

namespace Penalties

/-- The table of actions. -/
inductive Prescribes (policy : Penalties) : PenaltyReason → Action → Prop
  | checksumMismatch : Prescribes policy .checksumMismatch policy.checksumAction
  | malformed : Prescribes policy .malformed policy.checksumAction
  | hashMismatch : Prescribes policy .hashMismatch policy.checksumAction
  | timingProbe : Prescribes policy .timingProbe policy.timingAction
  | responseTimeout : Prescribes policy .responseTimeout policy.timeoutAction
  /-- A check may have an action of its own. -/
  | override {o : Override} {id : CheckId} (own : o ∈ policy.overrides) (about : o.check = id) :
      Prescribes policy (.checkFailed id) o.action
  /-- All other ones share an action. -/
  | default {id : CheckId} (none : ∀ o ∈ policy.overrides, o.check ≠ id) :
      Prescribes policy (.checkFailed id) policy.checkAction

theorem prescribes_actionFor (policy : Penalties) (reason : PenaltyReason) :
    policy.Prescribes reason (policy.actionFor reason) := by
  cases reason with
  | checksumMismatch => exact .checksumMismatch
  | malformed => exact .malformed
  | hashMismatch => exact .hashMismatch
  | timingProbe => exact .timingProbe
  | responseTimeout => exact .responseTimeout
  | checkFailed id =>
    rw [actionFor, checkActionFor]
    cases own : policy.overrides.reverse.find? (·.check = id) with
    | none =>
      refine .default fun o mem same => ?_
      simpa [same] using List.find?_eq_none.1 own o (List.mem_reverse.2 mem)
    | some o =>
      exact .override (List.mem_reverse.1 (List.mem_of_find?_eq_some own))
        (by simpa using List.find?_some own)

/-- If no check has two actions of its own, there is one action for each reason. -/
theorem prescribes_iff {policy : Penalties} (nodup : (policy.overrides.map (·.check)).Nodup)
    {reason : PenaltyReason} {action : Action} :
    policy.Prescribes reason action ↔ action = policy.actionFor reason := by
  refine ⟨fun h => ?_, ?_⟩
  · have taken := policy.prescribes_actionFor reason
    generalize policy.actionFor reason = other at taken
    -- only a check can have two entries, and its own come before the shared one
    cases h with
    | override own about =>
      cases taken with
      | override own' about' =>
        rw [List.inj_on_of_nodup_map nodup own own' (about.trans about'.symm)]
      | default none => exact absurd about (none _ own)
    | default none =>
      cases taken with
      | override own about => exact absurd about (none _ own)
      | default => rfl
    | _ =>
      cases taken
      rfl
  · rintro rfl
    exact policy.prescribes_actionFor reason

end Penalties

end Config

/-! ### Reasons -/

namespace Penalty

/-- Whether an answer to a challenge with the checks of these ids deserves a penalty for a
reason. -/
inductive Deserves (ids : List CheckId) : Outcome → PenaltyReason → Prop
  | checksumMismatch : Deserves ids .checksumMismatch .checksumMismatch
  | malformed {cause : Wire.Truncated} : Deserves ids (.malformed cause) .malformed
  /-- The earliest check that failed, whatever the timing probe says. -/
  | checkFailed {r : Report} {before after : List Verdict} {v : Verdict}
      (verdicts : r.verdicts = before ++ v :: after) (passed : ∀ w ∈ before, w.passed = true)
      (failed : v.passed = false) (here : ids[before.length]? = some v.id) :
      Deserves ids (.decoded r) (.checkFailed v.id)
  /-- The timing probe failed, and no check did. -/
  | timingProbe {r : Report} (passed : ∀ v ∈ r.verdicts, v.passed = true)
      (failed : r.timing.passed = false) : Deserves ids (.decoded r) .timingProbe

/-- No answer to a challenge gives the reasons of the other penalties. -/
theorem Deserves.of_answer {ids : List CheckId} {outcome : Outcome} {reason : PenaltyReason}
    (h : Deserves ids outcome reason) : reason ≠ .hashMismatch ∧ reason ≠ .responseTimeout := by
  cases h <;> exact ⟨nofun, nofun⟩

theorem firstFailure?_eq_none_iff {r : Report} :
    r.firstFailure? = none ↔ ∀ v ∈ r.verdicts, v.passed = true := by
  simp [Report.firstFailure?_eq_find?]

theorem firstFailure?_eq_some_iff {r : Report} {id : CheckId} :
    r.firstFailure? = some id ↔ ∃ before v after, r.verdicts = before ++ v :: after ∧
      (∀ w ∈ before, w.passed = true) ∧ v.passed = false ∧ v.id = id := by
  simp only [Report.firstFailure?_eq_find?, Option.map_eq_some_iff, List.find?_eq_some_iff_append,
    Bool.not_eq_true', Bool.not_eq_false']
  constructor
  · rintro ⟨v, ⟨failed, before, after, verdicts, passed⟩, about⟩
    exact ⟨before, v, after, verdicts, passed, failed, about⟩
  · rintro ⟨before, v, after, verdicts, passed, failed, about⟩
    exact ⟨v, ⟨failed, before, after, verdicts, passed⟩, about⟩

/-- The reason of a decision is the one that the answer gives. -/
theorem reasonOf?_eq_some_iff {ids : List CheckId} {outcome : Outcome} {reason : PenaltyReason}
    (verdicts : ∀ r, outcome = .decoded r → r.verdicts.map (·.id) = ids) :
    reasonOf? outcome = some reason ↔ Deserves ids outcome reason := by
  constructor
  · intro h
    cases outcome with
    | checksumMismatch =>
      cases h
      exact .checksumMismatch
    | malformed =>
      cases h
      exact .malformed
    | decoded r =>
      cases failure : r.firstFailure? with
      | some id =>
        -- a check failed, so the timing probe is not looked at
        obtain ⟨before, v, after, split, passed, failed, rfl⟩ :=
          firstFailure?_eq_some_iff.1 failure
        simp only [reasonOf?, failure, Option.some.injEq] at h
        subst h
        refine .checkFailed split passed failed ?_
        rw [← verdicts r rfl, split]
        simp
      | none =>
        simp only [reasonOf?, failure] at h
        split at h
        case isTrue => cases h
        case isFalse failed =>
          cases h
          exact .timingProbe (firstFailure?_eq_none_iff.1 failure) (by simpa using failed)
  · intro h
    cases h with
    | checksumMismatch | malformed => rfl
    | checkFailed split passed failed =>
      have first := firstFailure?_eq_some_iff.2 ⟨_, _, _, split, passed, failed, rfl⟩
      rw [reasonOf?, first]
    | timingProbe passed failed =>
      rw [reasonOf?, firstFailure?_eq_none_iff.2 passed]
      simp [failed]

/-! ### Records -/

/-- Whether a decision for a reason names the right check: the one that failed, or none. -/
inductive Cites (catalog : Catalog) (build : Build) : PenaltyReason → Option Check → Prop
  | check {c : Check} (found : catalog.get? build c.id = some c) :
      Cites catalog build (.checkFailed c.id) (some c)
  | none {reason : PenaltyReason} (other : ∀ id, reason ≠ .checkFailed id) :
      Cites catalog build reason none

/-- What a description says in brackets: of a check that failed its kind and, if it has one, its
comment, and else nothing. -/
inductive Words (catalog : Catalog) (build : Build) : PenaltyReason → String → Prop
  | bare {c : Check} (found : catalog.get? build c.id = some c) (comment : c.comment = "") :
      Words catalog build (.checkFailed c.id) (" (" ++ c.kind.name ++ " check)")
  | commented {c : Check} (found : catalog.get? build c.id = some c) (comment : c.comment ≠ "") :
      Words catalog build (.checkFailed c.id)
        (" (" ++ c.kind.name ++ " check: " ++ c.comment ++ ")")
  | none {reason : PenaltyReason} (other : ∀ id, reason ≠ .checkFailed id) :
      Words catalog build reason ""

/-- Whether all that a penalty says follows from its reason. -/
structure Consistent (catalog : Catalog) (build : Build) (policy : Config.Penalties) (p : Penalty) :
    Prop where
  /-- It names an id just if it is that of a failed check. -/
  checkId : p.reason.checkId ≠ 0 ↔ p.reason = .checkFailed p.reason.checkId
  check : Cites catalog build p.reason p.check
  action : ∀ action, policy.Prescribes p.reason action ↔ action = p.action
  banSeconds : p.banSeconds = if p.action = .ban then policy.banSeconds else 0
  description : ∃ words, Words catalog build p.reason words ∧
    p.description = "account " ++ toString p.account ++ ": " ++ p.reason.message ++ words ++
      ", action " ++ p.action.name

variable {catalog : Catalog} {build : Build} {reason : PenaltyReason} {check : Option Check}

theorem id_ne_zero_of_get? {id : CheckId} {c : Check} (found : catalog.get? build id = some c) :
    id ≠ 0 := by
  rintro rfl
  have sound := Catalog.defect?_of_get? found
  rw [Check.defect?, if_pos (Catalog.id_of_get? found)] at sound
  cases sound

theorem Cites.checkId (h : Cites catalog build reason check) :
    reason.checkId ≠ 0 ↔ reason = .checkFailed reason.checkId := by
  cases h with
  | check found => simp [PenaltyReason.checkId, id_ne_zero_of_get? found]
  | none other =>
    cases reason with
    | checkFailed id => exact absurd rfl (other id)
    | _ => simp [PenaltyReason.checkId]

theorem Cites.words (h : Cites catalog build reason check) :
    Words catalog build reason ((check.map describeCheck).getD "") := by
  cases h with
  | @check c found =>
    by_cases comment : c.comment = ""
    · have words : describeCheck c = " (" ++ c.kind.name ++ " check)" := by
        simp [describeCheck, comment, String.append_assoc]
      rw [Option.map_some, Option.getD_some, words]
      exact .bare found comment
    · have words : describeCheck c = " (" ++ c.kind.name ++ " check: " ++ c.comment ++ ")" := by
        have clause : " check: " = " check" ++ ": " := rfl
        rw [describeCheck, if_neg comment, clause]
        simp only [String.append_assoc]
      rw [Option.map_some, Option.getD_some, words]
      exact .commented found comment
  | none other => exact .none other

/-- **A decision is consistent with its reason**, if it names the right check. -/
theorem consistent_decide {policy : Config.Penalties}
    (nodup : (policy.overrides.map (·.check)).Nodup) (account : UInt32)
    (cites : Cites catalog build reason check) :
    Consistent catalog build policy (decide policy account reason check) where
  checkId := cites.checkId
  check := cites
  action _ := policy.prescribes_iff nodup
  banSeconds := rfl
  description := ⟨_, cites.words, rfl⟩

end Penalty

end Attest
