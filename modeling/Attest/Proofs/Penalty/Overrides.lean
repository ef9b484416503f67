import Attest.Proofs.Penalty
import Mathlib.Data.List.Induction
import Std.Data.HashMap.Lemmas

/-!
# Actions of their own

A check may have an action of its own, and a policy looks it up in a table in which a later entry
replaces an earlier one (`Config.Penalties.table`). So the order of the entries decides, unless no
check has two of them; and a configuration with two entries for a check is not used
(`Config.fault?_eq_none_iff`). In one that is used, each check has the action of its only entry, or
the one that all others share, whatever the order (`Config.overrides_unambiguous`).
-/

namespace Attest

namespace Config

/-! ### Looking up an action -/

namespace Penalties

/-- The checks with actions of their own, entered one after the other. -/
def table (policy : Penalties) : Std.HashMap CheckId Action :=
  policy.overrides.foldl (fun table o => table.insert o.check o.action) ∅

/-- The entries for a check. -/
def entriesFor (policy : Penalties) (id : CheckId) : List Override :=
  policy.overrides.filter (·.check = id)

/-- The table has the last entry for a check. -/
theorem checkActionFor_eq_getD (policy : Penalties) (id : CheckId) :
    policy.checkActionFor id = policy.table.getD id policy.checkAction := by
  obtain ⟨checkAction, _, _, _, _, overrides⟩ := policy
  simp only [checkActionFor, table]
  induction overrides using List.reverseRecOn with
  | nil => simp
  | append_singleton overrides o ih =>
    rw [List.foldl_append, List.reverse_append]
    by_cases here : o.check = id
    · simp [here]
    · simp [here, ih, Std.HashMap.getD_insert]

variable {policy : Penalties} {id : CheckId}

/-- The look-up finds the last entry for a check. -/
theorem find?_reverse_eq (policy : Penalties) (id : CheckId) :
    policy.overrides.reverse.find? (·.check = id) = (policy.entriesFor id).getLast? := by
  rw [← List.head?_filter, List.filter_reverse, List.head?_reverse, entriesFor]

theorem checkActionFor_of_nil (none : policy.entriesFor id = []) :
    policy.checkActionFor id = policy.checkAction := by
  rw [checkActionFor, find?_reverse_eq, none, List.getLast?_nil]

theorem checkActionFor_of_singleton {o : Override} (only : policy.entriesFor id = [o]) :
    policy.checkActionFor id = o.action := by
  rw [checkActionFor, find?_reverse_eq, only, List.getLast?_singleton]

/-- If no check has two actions of its own, there is one entry for a check or none. -/
theorem entriesFor_cases (nodup : (policy.overrides.map (·.check)).Nodup) (id : CheckId) :
    policy.entriesFor id = [] ∨ ∃ o, policy.entriesFor id = [o] := by
  match entries : policy.entriesFor id with
  | [] => exact .inl rfl
  | [o] => exact .inr ⟨o, rfl⟩
  | o :: o' :: rest =>
    have about : ∀ a ∈ policy.entriesFor id, a.check = id := fun a mem => by
      simpa using (List.mem_filter.1 mem).2
    have apart : ((policy.entriesFor id).map (·.check)).Nodup :=
      nodup.sublist (List.filter_sublist.map _)
    rw [entries] at about apart
    have same : o.check = o'.check := by rw [about o (by simp), about o' (by simp)]
    simp [same] at apart

/-- If no check has two actions of its own, the order of the entries makes no difference. -/
theorem actionFor_perm {overrides : List Override} (nodup : (policy.overrides.map (·.check)).Nodup)
    (perm : overrides.Perm policy.overrides) (reason : PenaltyReason) :
    { policy with overrides }.actionFor reason = policy.actionFor reason := by
  cases reason with
  | checkFailed id =>
    have entries : ({ policy with overrides }.entriesFor id).Perm (policy.entriesFor id) :=
      perm.filter _
    rcases entriesFor_cases nodup id with none | ⟨o, only⟩
    · rw [none, List.perm_nil] at entries
      exact (checkActionFor_of_nil entries).trans (checkActionFor_of_nil none).symm
    · rw [only, List.perm_singleton] at entries
      exact (checkActionFor_of_singleton entries).trans (checkActionFor_of_singleton only).symm
  | _ => rfl

end Penalties

/-! ### Configurations that can be used -/

/-- Whether two entries at different places are for one check. -/
def Ambiguous (overrides : List Override) : Prop :=
  ∃ (i j : Nat) (o o' : Override), i ≠ j ∧ overrides[i]? = some o ∧ overrides[j]? = some o' ∧
    o.check = o'.check

theorem ambiguous_iff {overrides : List Override} :
    Ambiguous overrides ↔ ¬ (overrides.map (·.check)).Nodup := by
  constructor
  · rintro ⟨i, j, o, o', apart, first, second, same⟩ nodup
    have inside : i < (overrides.map (·.check)).length := by
      rw [List.length_map]
      exact (List.getElem?_eq_some_iff.1 first).1
    refine apart ((List.getElem?_inj inside nodup).1 ?_)
    rw [List.getElem?_map, List.getElem?_map, first, second, Option.map_some, Option.map_some, same]
  · intro repeated
    rw [List.nodup_iff_getElem?_ne_getElem?] at repeated
    push Not at repeated
    obtain ⟨i, j, before, inside, same⟩ := repeated
    rw [List.length_map] at inside
    have inside' : i < overrides.length := Nat.lt_trans before inside
    refine ⟨i, j, overrides[i], overrides[j], Nat.ne_of_lt before, List.getElem?_eq_getElem inside',
      List.getElem?_eq_getElem inside, ?_⟩
    simpa [List.getElem?_eq_getElem inside, List.getElem?_eq_getElem inside'] using same

/-- A configuration can be used just if it has none of these faults. -/
theorem fault?_eq_none_iff {config : Config} :
    config.fault? = none ↔ ¬ (255 < config.scheduling.secondaryQuota ∨
      config.timing.interval = 0 ∨ config.timing.timeout = 0 ∨
      Ambiguous config.penalties.overrides) := by
  rw [ambiguous_iff]
  unfold fault?
  split_ifs with quota interval timeout
  · simp [quota]
  · simp [interval]
  · simp [timeout]
  · simp [repeated?_eq_none_iff, quota, interval, timeout]

theorem validated_eq_ok_iff {config accepted : Config} :
    config.validated = .ok accepted ↔ accepted = config ∧ config.fault? = none := by
  unfold validated
  cases config.fault? with
  | none => simp [eq_comm]
  | some cause => simp

theorem validated_error_iff {config : Config} :
    (∃ cause, config.validated = .error cause) ↔ config.fault? ≠ none := by
  unfold validated
  cases config.fault? <;> simp

/-- **No check has two actions** in a configuration that is accepted, and the order in which the
actions are listed makes no difference. -/
theorem overrides_unambiguous (config : Config) :
    ((∃ cause, config.validated = .error cause) ↔
      255 < config.scheduling.secondaryQuota ∨ config.timing.interval = 0 ∨
        config.timing.timeout = 0 ∨ Ambiguous config.penalties.overrides) ∧
    ∀ accepted, config.validated = .ok accepted →
      accepted = config ∧
      (∀ id, let policy := accepted.penalties
        policy.actionFor (.checkFailed id) = policy.table.getD id policy.checkAction ∧
        ((∃ o, policy.entriesFor id = [o] ∧ policy.actionFor (.checkFailed id) = o.action) ∨
          policy.entriesFor id = [] ∧
            policy.actionFor (.checkFailed id) = policy.checkAction)) ∧
      ∀ overrides, overrides.Perm accepted.penalties.overrides →
        let reordered := { accepted with penalties := { accepted.penalties with overrides } }
        reordered.validated = .ok reordered ∧
          ∀ reason, reordered.penalties.actionFor reason = accepted.penalties.actionFor reason := by
  constructor
  · rw [validated_error_iff, ne_eq, fault?_eq_none_iff, not_not]
  intro accepted usable
  obtain ⟨rfl, sound⟩ := validated_eq_ok_iff.1 usable
  have nodup := nodup_overrides sound
  refine ⟨rfl, fun id => ⟨Penalties.checkActionFor_eq_getD _ id, ?_⟩,
    fun overrides perm => ⟨?_, ?_⟩⟩
  · rcases Penalties.entriesFor_cases nodup id with none | ⟨o, only⟩
    · exact .inr ⟨none, Penalties.checkActionFor_of_nil none⟩
    · exact .inl ⟨o, only, Penalties.checkActionFor_of_singleton only⟩
  · refine validated_eq_ok_iff.2 ⟨rfl, ?_⟩
    rw [fault?_eq_none_iff, ambiguous_iff] at sound ⊢
    rwa [(perm.map _).nodup_iff]
  · exact Penalties.actionFor_perm nodup perm

/-- Two checks with actions of their own, listed in either order. -/
theorem sample_overrides :
    let listed : List Override := [⟨12, .ban⟩, ⟨7, .disconnect⟩]
    let config : Config := { penalties := { overrides := listed } }
    let reordered : Config := { penalties := { overrides := listed.reverse } }
    config.validated = .ok config ∧ reordered.validated = .ok reordered ∧
      config.penalties.actionFor (.checkFailed 12) = .ban ∧
      config.penalties.actionFor (.checkFailed 8) = .warning ∧
      ∀ reason, reordered.penalties.actionFor reason = config.penalties.actionFor reason := by
  intro listed config reordered
  have usable : config.validated = .ok config := rfl
  obtain ⟨-, entries, order⟩ := (overrides_unambiguous config).2 config usable
  obtain ⟨accepted, same⟩ := order listed.reverse listed.reverse_perm
  refine ⟨usable, accepted, ?_, ?_, same⟩
  · obtain ⟨o, only, action⟩ | ⟨none, -⟩ := (entries 12).2
    · cases only
      exact action
    · cases none
  · obtain ⟨o, only, -⟩ | ⟨-, action⟩ := (entries 8).2
    · cases only
    · exact action

end Config

end Attest
