import Attest.Catalog
import Mathlib.Data.List.Forall2
import Mathlib.Data.List.Nodup

/-!
# What a catalog answers

A catalog is a list without two checks of one rank, so a check is found by its build and id
(`Catalog.get?_eq_some_iff`), and the ids of a pool are those that find a check of the pool
(`Catalog.mem_poolIds_iff`). A check that is found has no defect (`Catalog.defect?_of_get?`).
`Catalog.Defines` relates a row of ids to the row of the checks that they find.
-/

namespace Attest

namespace Check

theorem kindDefect?_of_defect? {c : Check} (h : c.defect? = none) : c.kind.defect? = none := by
  unfold defect? at h
  split at h
  · cases h
  · exact h

end Check

namespace Catalog

variable {catalog : Catalog} {build : Build} {id : CheckId} {c : Check}

theorem eq_of_rank {d : Check} (hc : c ∈ catalog.checks) (hd : d ∈ catalog.checks)
    (h : c.rank = d.rank) : c = d := by
  have apart : (catalog.checks.map Check.rank).Nodup :=
    List.pairwise_map.2 (catalog.ascending.imp Nat.ne_of_lt)
  exact List.inj_on_of_nodup_map apart hc hd h

theorem mem_of_get? (h : catalog.get? build id = some c) :
    c ∈ catalog.checks ∧ c.build = build ∧ c.id = id := by
  unfold get? at h
  have found : decide (c.build = build ∧ c.id = id) = true :=
    List.find?_some (p := fun c : Check => decide (c.build = build ∧ c.id = id)) h
  exact ⟨List.mem_of_find?_eq_some h, of_decide_eq_true found⟩

/-- A check is found by its build and its id. -/
theorem get?_eq_some_iff :
    catalog.get? build id = some c ↔ c ∈ catalog.checks ∧ c.build = build ∧ c.id = id := by
  refine ⟨mem_of_get?, ?_⟩
  rintro ⟨mem, rfl, rfl⟩
  cases found : catalog.get? c.build c.id with
  | none =>
    -- the check itself would have been found
    have absent := List.find?_eq_none.1 found c mem
    exact absurd (by simp) absent
  | some d =>
    obtain ⟨hd, hb, hi⟩ := mem_of_get? found
    have rank_eq : d.rank = c.rank := by rw [Check.rank, Check.rank, hb, hi]
    rw [eq_of_rank hd mem rank_eq]

theorem id_of_get? (h : catalog.get? build id = some c) : c.id = id :=
  (get?_eq_some_iff.1 h).2.2

theorem defect?_of_get? (h : catalog.get? build id = some c) : c.defect? = none :=
  catalog.sound c (get?_eq_some_iff.1 h).1

theorem require_of_get? (h : catalog.get? build id = some c) :
    catalog.require build id = .ok c := by
  rw [require, h]

/-- The ids of a pool are those of the build that find a check of the pool. -/
theorem mem_poolIds_iff {pool : Pool} :
    id ∈ catalog.poolIds build pool ↔
      ∃ c, catalog.get? build id = some c ∧ c.kind.pool = pool := by
  simp only [poolIds, definitions, List.mem_map, List.mem_filter, decide_eq_true_eq,
    get?_eq_some_iff]
  constructor
  · rintro ⟨c, ⟨⟨mem, hb⟩, hp⟩, hi⟩
    exact ⟨c, ⟨mem, hb, hi⟩, hp⟩
  · rintro ⟨c, ⟨mem, hb, hi⟩, hp⟩
    exact ⟨c, ⟨⟨mem, hb⟩, hp⟩, hi⟩

theorem isSome_of_mem_poolIds {pool : Pool} (h : id ∈ catalog.poolIds build pool) :
    (catalog.get? build id).isSome := by
  obtain ⟨c, hc, -⟩ := mem_poolIds_iff.1 h
  rw [hc, Option.isSome_some]

/-- The checks of a build are ascending by id. -/
theorem definitions_ascending (catalog : Catalog) (build : Build) :
    (catalog.definitions build).Pairwise fun a b => a.id < b.id := by
  refine (catalog.ascending.filter _).imp_of_mem fun {a b} ha hb lower => ?_
  -- within one build the rank is told by the id
  have same : b.build = a.build := by
    rw [of_decide_eq_true (List.mem_filter.1 ha).2, of_decide_eq_true (List.mem_filter.1 hb).2]
  rw [Check.rank, Check.rank, same] at lower
  exact UInt16.lt_iff_toNat_lt.2 (Nat.add_lt_add_iff_left.1 lower)

/-- The ids of a pool are ascending. -/
theorem poolIds_ascending (catalog : Catalog) (build : Build) (pool : Pool) :
    (catalog.poolIds build pool).Pairwise (· < ·) :=
  List.pairwise_map.2 ((catalog.definitions_ascending build).filter _)

/-- No id is in a pool twice. -/
theorem nodup_poolIds (catalog : Catalog) (build : Build) (pool : Pool) :
    (catalog.poolIds build pool).Nodup :=
  (poolIds_ascending catalog build pool).imp UInt16.ne_of_lt

/-- No id is in both pools. -/
theorem disjoint_poolIds (catalog : Catalog) (build : Build) :
    (catalog.poolIds build .primary).Disjoint (catalog.poolIds build .secondary) := by
  intro id primary secondary
  obtain ⟨c, found, isPrimary⟩ := mem_poolIds_iff.1 primary
  obtain ⟨d, found', isSecondary⟩ := mem_poolIds_iff.1 secondary
  obtain rfl : c = d := Option.some.inj (found.symm.trans found')
  rw [isPrimary] at isSecondary
  cases isSecondary

/-! ### Rows of checks -/

/-- Whether the ids find these checks, one for each. -/
def Defines (catalog : Catalog) (build : Build) (ids : List CheckId) (checks : List Check) :
    Prop :=
  List.Forall₂ (fun id c => catalog.get? build id = some c) ids checks

variable {ids : List CheckId} {checks : List Check}

theorem Defines.exists_get? (h : catalog.Defines build ids checks) (mem : id ∈ ids) :
    ∃ c, catalog.get? build id = some c := by
  induction h with
  | nil => cases mem
  | cons here _ ih =>
    rcases List.mem_cons.1 mem with rfl | later
    · exact ⟨_, here⟩
    · exact ih later

theorem Defines.map_id (h : catalog.Defines build ids checks) : checks.map (·.id) = ids := by
  induction h with
  | nil => rfl
  | cons here _ ih => rw [List.map_cons, ih, id_of_get? here]

theorem Defines.defect? (h : catalog.Defines build ids checks) :
    ∀ c ∈ checks, c.defect? = none := by
  induction h with
  | nil => simp
  | cons here _ ih =>
    intro c hc
    rcases List.mem_cons.1 hc with rfl | hc
    · exact defect?_of_get? here
    · exact ih c hc

/-- The checks that ids find. -/
def found (catalog : Catalog) (build : Build) (ids : List CheckId) : List Check :=
  ids.filterMap (catalog.get? build)

theorem defines_found (h : ∀ id ∈ ids, (catalog.get? build id).isSome) :
    catalog.Defines build ids (catalog.found build ids) := by
  induction ids with
  | nil => exact .nil
  | cons id rest ih =>
    obtain ⟨c, hc⟩ := Option.isSome_iff_exists.1 (h id List.mem_cons_self)
    have later : ∀ id ∈ rest, (catalog.get? build id).isSome :=
      fun id hid => h id (List.mem_cons_of_mem _ hid)
    rw [found, List.filterMap_cons_some hc]
    exact .cons hc (ih later)

/-- Ids of a pool find checks of the pool. -/
theorem pool_of_mem_found {pool : Pool} (h : ∀ id ∈ ids, id ∈ catalog.poolIds build pool) :
    ∀ c ∈ catalog.found build ids, c.kind.pool = pool := by
  intro c hc
  obtain ⟨id, hid, found⟩ := List.mem_filterMap.1 hc
  obtain ⟨c', found', kind⟩ := mem_poolIds_iff.1 (h id hid)
  rw [found', Option.some_inj] at found
  rwa [← found]

theorem found_append (catalog : Catalog) (build : Build) (a b : List CheckId) :
    catalog.found build (a ++ b) = catalog.found build a ++ catalog.found build b :=
  List.filterMap_append

theorem Defines.eq_found (h : catalog.Defines build ids checks) :
    checks = catalog.found build ids := by
  induction h with
  | nil => rfl
  | cons here _ ih => rw [found, List.filterMap_cons_some here, ih, found]

/-! ### Checks of one kind -/

/-- Checks of one kind for a build, with the ids from 1 on. -/
def numberedChecks (build : Build) (kind : Check.Kind) (count : Nat) : List Check :=
  (List.range count).map fun n => ⟨UInt16.ofNat (n + 1), build, kind, ""⟩

section Numbered

variable {kind : Check.Kind} {count : Nat}

theorem pairwise_rank_numberedChecks (build : Build) (kind : Check.Kind) (few : count < 65536) :
    (numberedChecks build kind count).Pairwise fun a b => a.rank < b.rank := by
  refine List.pairwise_map.2 (List.pairwise_lt_range.imp_of_mem fun {m n} hm hn less => ?_)
  rw [List.mem_range] at hm hn
  simp only [Check.rank, UInt16.toNat_ofNat']
  omega

theorem defect?_of_mem_numberedChecks (sound : kind.defect? = none) (few : count < 65536) :
    ∀ c ∈ numberedChecks build kind count, c.defect? = none := by
  intro c hc
  obtain ⟨n, hn, rfl⟩ := List.mem_map.1 hc
  rw [List.mem_range] at hn
  have named : UInt16.ofNat (n + 1) ≠ 0 := by
    intro zero
    have value := congrArg UInt16.toNat zero
    simp only [UInt16.toNat_ofNat', UInt16.toNat_zero] at value
    omega
  exact (if_neg named).trans sound

theorem build_of_mem_numberedChecks (hc : c ∈ numberedChecks build kind count) :
    c.build = build ∧ c.kind = kind := by
  obtain ⟨n, -, rfl⟩ := List.mem_map.1 hc
  exact ⟨rfl, rfl⟩

/-- They all belong to one pool. -/
theorem filter_numberedChecks (build : Build) (kind : Check.Kind) (count : Nat) :
    ((numberedChecks build kind count).filter (·.build = build)).filter
      (·.kind.pool = kind.pool) = numberedChecks build kind count := by
  have own : (numberedChecks build kind count).filter (·.build = build) =
      numberedChecks build kind count :=
    List.filter_eq_self.2 fun c hc => by simp [(build_of_mem_numberedChecks hc).1]
  rw [own]
  exact List.filter_eq_self.2 fun c hc => by simp [(build_of_mem_numberedChecks hc).2]

theorem length_numberedChecks (build : Build) (kind : Check.Kind) (count : Nat) :
    (numberedChecks build kind count).length = count := by
  rw [numberedChecks, List.length_map, List.length_range]

end Numbered

/-- A catalog with one check of each kind. -/
def sample : Catalog where
  checks := [
    ⟨1, 5875, .memory 0x0047A1F0 2 [0x74, 0x0F], "jump"⟩,
    ⟨2, 5875, .pageA [0x56, 0x57, 0xFC] 0x1000 12, ""⟩,
    ⟨3, 5875, .pageB [0xE8, 0x00] 0x2000 7, ""⟩,
    ⟨4, 5875, .mpq "World\\Maps.adt" (.replicate 20 0xA5), ""⟩,
    ⟨5, 5875, .luaString "UnitName", ""⟩,
    ⟨6, 5875, .driver [0xDE, 0xAD, 0xBE, 0xEF] "\\Device\\Speed", ""⟩,
    ⟨7, 5875, .module "WPESPY.DLL", ""⟩]
  ascending := by decide
  sound := by decide

end Catalog

end Attest
