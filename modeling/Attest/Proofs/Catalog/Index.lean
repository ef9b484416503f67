import Attest.Proofs.Catalog
import Mathlib.Algebra.BigOperators.Group.List.Lemmas
import Mathlib.Algebra.Order.Ring.Nat
import Mathlib.Data.List.Dedup

/-!
# The catalog of a list of checks

A list of checks is loaded check by check, and each is put into its place. What comes of it is told
by the list as a whole:

* `Catalog.ofChecks_eq_ok_iff` : a catalog is that of a list just if it holds the checks of the
  list, in some order;
* `Catalog.exists_ofChecks_iff` : a list has a catalog just if no check has a defect and no two
  share build and id;
* `Catalog.index_of_perm` : what can be asked of a catalog (`Catalog.Answers`) is answered as any
  list of its checks asks for.
-/

namespace Attest

namespace Check

/-- Equal ranks mean the same id of the same build. -/
theorem rank_eq_iff {a b : Check} : a.rank = b.rank ↔ a.build = b.build ∧ a.id = b.id := by
  constructor
  · intro same
    have bound := a.id.toNat_lt
    have bound' := b.id.toNat_lt
    rw [rank, rank] at same
    exact ⟨UInt16.toNat_inj.1 (by omega), UInt16.toNat_inj.1 (by omega)⟩
  · rintro ⟨build, id⟩
    rw [rank, rank, build, id]

/-- A check of a lower rank is not of a higher build. -/
theorem build_le_of_rank_lt {a b : Check} (h : a.rank < b.rank) : a.build ≤ b.build := by
  have bound := b.id.toNat_lt
  rw [rank, rank] at h
  exact UInt16.le_iff_toNat_le.2 (by omega)

theorem insertByRank_perm (c : Check) (checks : List Check) :
    (c.insertByRank checks).Perm (c :: checks) := by
  induction checks with
  | nil => exact .refl _
  | cons d rest ih =>
    unfold insertByRank
    split
    · exact .refl _
    · exact (ih.cons d).trans (.swap c d rest)

/-- What tells two checks of a list apart. -/
def key (c : Check) : Build × CheckId :=
  (c.build, c.id)

theorem key_eq_iff {a b : Check} : a.key = b.key ↔ a.rank = b.rank := by
  rw [rank_eq_iff, key, key, Prod.mk.injEq]

end Check

namespace Catalog

/-! ### Loading -/

variable {catalog : Catalog} {checks : List Check}

/-- Two catalogs that hold the same checks are the same. -/
theorem eq_of_perm {a b : Catalog} (h : a.checks.Perm b.checks) : a = b := by
  have same : a.checks = b.checks := by
    refine List.Perm.eq_of_pairwise ?_ a.ascending b.ascending h
    intro c d _ _ lower higher
    omega
  cases a
  cases b
  cases same
  rfl

theorem insert_of_ok {c : Check} {next : Catalog} (h : catalog.insert c = .ok next) :
    c.defect? = none ∧ next.checks.Perm (c :: catalog.checks) := by
  unfold insert at h
  split at h
  case h_1 => cases h
  case h_2 sound =>
    split at h
    · cases h
      exact ⟨sound, Check.insertByRank_perm c _⟩
    · cases h

theorem insert_of_defect {c : Check} {defect : Check.Defect} (h : c.defect? = some defect) :
    catalog.insert c = .error (.check c.id (.defect defect)) := by
  unfold insert
  split
  case h_1 other broken =>
    rw [h] at broken
    cases broken
    rfl
  case h_2 sound =>
    rw [h] at sound
    cases sound

theorem insert_of_taken {c : Check} (sound : c.defect? = none)
    (taken : c.key ∈ catalog.checks.map Check.key) :
    catalog.insert c = .error (.check c.id (.duplicate c.build)) := by
  obtain ⟨d, hd, same⟩ := List.mem_map.1 taken
  unfold insert
  split
  case h_1 defect broken =>
    rw [sound] at broken
    cases broken
  case h_2 =>
    rw [dif_neg fun fresh => fresh d hd (Check.key_eq_iff.1 same)]

/-- A check without a defect is added if its key is new. -/
theorem exists_insert {c : Check} (sound : c.defect? = none)
    (fresh : ∀ d ∈ catalog.checks, d.key ≠ c.key) : ∃ next, catalog.insert c = .ok next := by
  have apart : ∀ d ∈ catalog.checks, d.rank ≠ c.rank :=
    fun d hd same => fresh d hd (Check.key_eq_iff.2 same)
  unfold insert
  split
  case h_1 defect broken =>
    rw [sound] at broken
    cases broken
  case h_2 =>
    rw [dif_pos apart]
    exact ⟨_, rfl⟩

theorem insertAll_of_ok {next : Catalog} (h : catalog.insertAll checks = .ok next) :
    (∀ c ∈ checks, c.defect? = none) ∧ next.checks.Perm (checks ++ catalog.checks) := by
  induction checks generalizing catalog with
  | nil =>
    cases h
    exact ⟨nofun, .refl _⟩
  | cons c rest ih =>
    rw [insertAll] at h
    cases added : catalog.insert c with
    | error fault =>
      rw [added] at h
      cases h
    | ok mid =>
      rw [added] at h
      obtain ⟨sound, perm⟩ := insert_of_ok added
      obtain ⟨later, all⟩ := ih h
      refine ⟨fun d hd => ?_, ?_⟩
      · rcases List.mem_cons.1 hd with rfl | hd
        · exact sound
        · exact later d hd
      · exact all.trans ((perm.append_left rest).trans List.perm_middle)

/-- Checks without a defect are added if all keys are different, also from those that are there. -/
theorem exists_insertAll (sound : ∀ c ∈ checks, c.defect? = none)
    (apart : ((checks ++ catalog.checks).map Check.key).Nodup) :
    ∃ next, catalog.insertAll checks = .ok next := by
  induction checks generalizing catalog with
  | nil => exact ⟨catalog, rfl⟩
  | cons c rest ih =>
    rw [List.cons_append, List.map_cons, List.nodup_cons] at apart
    obtain ⟨fresh, apart'⟩ := apart
    have new : ∀ d ∈ catalog.checks, d.key ≠ c.key := fun d hd same =>
      fresh (List.mem_map.2 ⟨d, List.mem_append_right _ hd, same⟩)
    obtain ⟨mid, added⟩ := exists_insert (sound c List.mem_cons_self) new
    have perm : (rest ++ mid.checks).Perm (c :: (rest ++ catalog.checks)) :=
      ((insert_of_ok added).2.append_left rest).trans List.perm_middle
    have apart : ((rest ++ mid.checks).map Check.key).Nodup :=
      (perm.map _).nodup_iff.2 (List.nodup_cons.2 ⟨fresh, apart'⟩)
    obtain ⟨next, all⟩ := ih (fun d hd => sound d (List.mem_cons_of_mem _ hd)) apart
    rw [insertAll, added]
    exact ⟨next, all⟩

/-- No two checks of a catalog have the same key. -/
theorem nodup_keys (catalog : Catalog) : (catalog.checks.map Check.key).Nodup := by
  refine List.pairwise_map.2 (catalog.ascending.imp fun {a b} lower same => ?_)
  rw [Check.key_eq_iff] at same
  omega

/-- A list has a catalog just if no check has a defect and no two share build and id. -/
theorem exists_ofChecks_iff :
    (∃ catalog, ofChecks checks = .ok catalog) ↔
      (∀ c ∈ checks, c.defect? = none) ∧ (checks.map Check.key).Nodup := by
  constructor
  · rintro ⟨catalog, loaded⟩
    obtain ⟨sound, perm⟩ := insertAll_of_ok loaded
    rw [empty, List.append_nil] at perm
    exact ⟨sound, (perm.map _).nodup_iff.1 catalog.nodup_keys⟩
  · rintro ⟨sound, apart⟩
    refine exists_insertAll sound ?_
    rwa [empty, List.append_nil]

/-- A catalog is that of a list just if it holds the checks of the list, in some order. -/
theorem ofChecks_eq_ok_iff : ofChecks checks = .ok catalog ↔ catalog.checks.Perm checks := by
  constructor
  · intro loaded
    have perm := (insertAll_of_ok loaded).2
    rwa [empty, List.append_nil] at perm
  · intro perm
    have sound : ∀ c ∈ checks, c.defect? = none :=
      fun c hc => catalog.sound c (perm.mem_iff.2 hc)
    have apart : (checks.map Check.key).Nodup := (perm.map _).nodup_iff.1 catalog.nodup_keys
    -- so the list has some catalog, and by what it holds that is this one
    obtain ⟨other, loaded⟩ := exists_ofChecks_iff.2 ⟨sound, apart⟩
    have perm' := (insertAll_of_ok loaded).2
    rw [empty, List.append_nil] at perm'
    rw [loaded, eq_of_perm (perm'.trans perm.symm)]

/-! ### Builds -/

/-- Of ascending builds each is kept once. -/
theorem exists_eraseReps_loop {b : Build} {rest : List Build}
    (ascending : (b :: rest).Pairwise (· ≤ ·)) (seen : List Build) :
    ∃ kept, List.eraseRepsBy.loop (· == ·) b rest seen = seen.reverse ++ kept ∧
      kept.Pairwise (· < ·) ∧ ∀ d, d ∈ kept ↔ d ∈ b :: rest := by
  induction rest generalizing b seen with
  | nil => exact ⟨[b], by simp [List.eraseRepsBy.loop], by simp, fun _ => .rfl⟩
  | cons c rest ih =>
    obtain ⟨least, ascending'⟩ := List.pairwise_cons.1 ascending
    -- a build is kept when the next one differs; as they ascend, it does not come again
    unfold List.eraseRepsBy.loop
    split
    case h_1 same =>
      obtain rfl : b = c := by simpa using same
      obtain ⟨kept, loop, lower, members⟩ := ih ascending' seen
      exact ⟨kept, loop, lower, fun d => by rw [members]; simp⟩
    case h_2 other =>
      obtain ⟨kept, loop, lower, members⟩ := ih ascending' (b :: seen)
      have first : b < c :=
        UInt16.lt_of_le_of_ne (least c List.mem_cons_self) (by simpa using other)
      refine ⟨b :: kept, by simpa using loop, List.pairwise_cons.2 ⟨fun d hd => ?_, lower⟩,
        fun d => by rw [List.mem_cons, members, List.mem_cons (l := c :: rest)]⟩
      rcases List.mem_cons.1 ((members d).1 hd) with rfl | hd
      · exact first
      · exact UInt16.lt_of_lt_of_le first ((List.pairwise_cons.1 ascending').1 d hd)

theorem builds_spec (catalog : Catalog) :
    catalog.builds.Pairwise (· < ·) ∧
      ∀ build, build ∈ catalog.builds ↔ ∃ c ∈ catalog.checks, c.build = build := by
  have ascending : (catalog.checks.map (·.build)).Pairwise (· ≤ ·) :=
    List.pairwise_map.2 (catalog.ascending.imp Check.build_le_of_rank_lt)
  simp only [builds, ← List.mem_map]
  generalize catalog.checks.map (·.build) = all at ascending ⊢
  cases all with
  | nil => exact ⟨.nil, fun _ => .rfl⟩
  | cons b rest =>
    obtain ⟨kept, loop, lower, members⟩ := exists_eraseReps_loop ascending []
    have kept_eq : (b :: rest).eraseReps = kept := loop
    rw [kept_eq]
    exact ⟨lower, members⟩

/-! ### Numbers -/

/-- Each check of a build is in one of its pools. -/
theorem poolIds_perm (catalog : Catalog) (build : Build) :
    (catalog.poolIds build .primary ++ catalog.poolIds build .secondary).Perm
      ((catalog.definitions build).map (·.id)) := by
  have other : ∀ c : Check,
      decide (c.kind.pool = .secondary) = !decide (c.kind.pool = .primary) := by
    intro c
    cases c.kind.pool <;> rfl
  simp only [poolIds, other, ← List.map_append]
  exact (List.filter_append_perm _ _).map _

theorem length_definitions (catalog : Catalog) (build : Build) :
    (catalog.definitions build).length =
      (catalog.poolIds build .primary).length + (catalog.poolIds build .secondary).length := by
  rw [← List.length_append, (catalog.poolIds_perm build).length_eq, List.length_map]

/-- The checks of a build are found by their ids. -/
theorem found_definitions (catalog : Catalog) (build : Build) :
    catalog.found build ((catalog.definitions build).map (·.id)) = catalog.definitions build := by
  have here : ∀ c ∈ catalog.definitions build, catalog.get? build c.id = some c := by
    intro c hc
    obtain ⟨mem, own⟩ := List.mem_filter.1 hc
    exact get?_eq_some_iff.2 ⟨mem, of_decide_eq_true own, rfl⟩
  have defined : catalog.Defines build ((catalog.definitions build).map (·.id))
      (catalog.definitions build) :=
    List.forall₂_map_left_iff.2 (List.forall₂_same.2 here)
  exact defined.eq_found.symm

/-- Each check is of one build. -/
theorem sum_length_definitions (catalog : Catalog) :
    (catalog.builds.map fun build => (catalog.definitions build).length).sum = catalog.size := by
  obtain ⟨ascending, members⟩ := catalog.builds_spec
  have distinct : catalog.builds.Nodup := ascending.imp UInt16.ne_of_lt
  have perm : catalog.builds.Perm (catalog.checks.map (·.build)).dedup := by
    refine (List.perm_ext_iff_of_nodup distinct (List.nodup_dedup _)).2 fun build => ?_
    rw [members, List.mem_dedup, List.mem_map]
  have count : ∀ build, (catalog.definitions build).length =
      (catalog.checks.map (·.build)).count build := by
    intro build
    rw [definitions, ← List.countP_eq_length_filter, List.count_eq_countP, List.countP_map]
    rfl
  -- so what is summed is how often each build is there, over all builds
  simp only [count]
  rw [(perm.map _).sum_eq, List.sum_map_count_dedup_eq_length, List.length_map, size]

/-! ### Answers -/

/-- What the checks of all builds can be asked for. -/
@[ext]
structure Answers where
  get? : Build → CheckId → Option Check
  require : Build → CheckId → Except Fault Check
  expectation? : Build → CheckId → Option Bytes
  poolIds : Build → Pool → List CheckId
  definitions : Build → List Check
  builds : List Build
  size : Nat
  isEmpty : Bool

/-- What a catalog answers. -/
def answers (catalog : Catalog) : Answers where
  get? := catalog.get?
  require := catalog.require
  expectation? := catalog.expectation?
  poolIds := catalog.poolIds
  definitions := catalog.definitions
  builds := catalog.builds
  size := catalog.size
  isEmpty := catalog.checks.isEmpty

/-- Whether these are the answers that a list of checks asks for. -/
structure Answers.Index (a : Answers) (checks : List Check) : Prop where
  /-- A check is found by its build and its id. -/
  get : ∀ build id c, a.get? build id = some c ↔ c ∈ checks ∧ c.build = build ∧ c.id = id
  /-- The pools of a build hold the ids of its checks, each in the pool of its kind, and all of them
  are found. -/
  mem_pool : ∀ build pool id, id ∈ a.poolIds build pool ↔
    ∃ c ∈ checks, c.build = build ∧ c.id = id ∧ c.kind.pool = pool
  found : ∀ build pool, ∀ id ∈ a.poolIds build pool, (a.get? build id).isSome
  pool_ascending : ∀ build pool, (a.poolIds build pool).Pairwise (· < ·)
  pools_disjoint : ∀ build, (a.poolIds build .primary).Disjoint (a.poolIds build .secondary)
  /-- The checks of a build are listed once each, by id. -/
  definitions_perm : ∀ build, (a.definitions build).Perm (checks.filter (·.build = build))
  definitions_ascending : ∀ build, (a.definitions build).Pairwise fun a b => a.id < b.id
  /-- The builds are those that have a check. -/
  mem_builds : ∀ build, build ∈ a.builds ↔ ∃ c ∈ checks, c.build = build
  builds_ascending : a.builds.Pairwise (· < ·)
  /-- Each check is counted once, also if the pools of all builds are counted. -/
  size : a.size = checks.length
  size_pools : a.size = (a.builds.map fun build =>
    (a.poolIds build .primary).length + (a.poolIds build .secondary).length).sum
  isEmpty : a.isEmpty = true ↔ checks = []

/-- A catalog answers as any list of its checks asks for. -/
theorem index_of_perm (perm : catalog.checks.Perm checks) : catalog.answers.Index checks where
  get build id c := by
    rw [← perm.mem_iff]
    exact get?_eq_some_iff
  mem_pool build pool id := by
    simp only [answers, mem_poolIds_iff, get?_eq_some_iff, perm.mem_iff, and_assoc]
  found _ _ _ := isSome_of_mem_poolIds
  pool_ascending := catalog.poolIds_ascending
  pools_disjoint := catalog.disjoint_poolIds
  definitions_perm build := perm.filter _
  definitions_ascending := catalog.definitions_ascending
  mem_builds build := by simp only [answers, catalog.builds_spec.2 build, perm.mem_iff]
  builds_ascending := catalog.builds_spec.1
  size := perm.length_eq
  size_pools := by simp only [answers, ← length_definitions, sum_length_definitions]
  isEmpty := by
    rw [← List.isEmpty_iff, List.isEmpty_iff_length_eq_zero, ← perm.length_eq,
      ← List.isEmpty_iff_length_eq_zero]
    rfl

end Catalog

end Attest
