import Attest.Proofs.Catalog.Index
import Std.Data.HashMap.Lemmas
import Std.Data.TreeMap.Lemmas

/-!
# Registries

A registry keeps what a catalog keeps in another form: a table finds a check by its build and its
id, and each build has its ids in two pools. A check is added to the table and behind the ids of its
pool, so the pools of a list are in its order until all checks are added; then they are sorted once.

* `Registry.Holds` : the invariant of the loop, that the table finds the checks of a catalog and the
  pools have their ids, each once and in some order; one check keeps it or is refused
  (`Registry.Holds.add`), and so does a list (`Registry.Holds.addAll`);
* `Registry.answers_ofChecks` : **a registry answers as the catalog does**, and a list that is
  refused is refused with the same fault;
* `Catalog.ofChecks_indexes` : **both are faithful indexes of their list of checks**, and the order
  of the list leaves no trace.
-/

namespace Attest

namespace Registry

/-- The ids of one build. -/
structure Pools where
  primary : List CheckId := []
  secondary : List CheckId := []

namespace Pools

/-- The ids in one pool. -/
def ids (pools : Pools) : Pool → List CheckId
  | .primary => pools.primary
  | .secondary => pools.secondary

/-- Adds the id of a check behind those of its pool. -/
def push (pools : Pools) (c : Check) : Pools :=
  match c.kind.pool with
  | .primary => { pools with primary := pools.primary ++ [c.id] }
  | .secondary => { pools with secondary := pools.secondary ++ [c.id] }

/-- The ids in ascending order. -/
def sort (pools : Pools) : Pools where
  primary := pools.primary.mergeSort
  secondary := pools.secondary.mergeSort

theorem ids_push (pools : Pools) (c : Check) (pool : Pool) :
    (pools.push c).ids pool =
      if c.kind.pool = pool then pools.ids pool ++ [c.id] else pools.ids pool := by
  cases own : c.kind.pool <;> cases pool <;> simp [push, ids, own]

theorem ids_sort (pools : Pools) (pool : Pool) :
    pools.sort.ids pool = (pools.ids pool).mergeSort := by
  cases pool <;> rfl

end Pools

end Registry

/-- The checks of all builds, by build and id, and the ids of each build by pool. -/
structure Registry where
  checks : Std.HashMap (Build × CheckId) Check
  pools : Std.TreeMap Build Registry.Pools

namespace Registry

/-- The registry without checks. -/
def empty : Registry :=
  ⟨∅, ∅⟩

/-- Adds a check to the table and to its pool. -/
def push (r : Registry) (c : Check) : Registry where
  checks := r.checks.insert c.key c
  pools := r.pools.insert c.build ((r.pools[c.build]?.getD {}).push c)

/-- Adds a check without a defect whose id its build does not have yet. -/
def add (r : Registry) (c : Check) : Except Fault Registry :=
  match c.defect? with
  | some defect => .error (.check c.id (.defect defect))
  | none => if c.key ∈ r.checks then .error (.check c.id (.duplicate c.build)) else .ok (r.push c)

/-- Adds checks in order, up to the first that cannot be added. -/
def addAll (r : Registry) : List Check → Except Fault Registry
  | [] => .ok r
  | c :: rest => do (← r.add c).addAll rest

/-- Sorts all pools. -/
def sort (r : Registry) : Registry :=
  { r with pools := r.pools.map fun _ pools => pools.sort }

/-- The registry of a list of checks. -/
def ofChecks (checks : List Check) : Except Fault Registry :=
  (empty.addAll checks).map sort

/-- The check of a build with an id. -/
def get? (r : Registry) (build : Build) (id : CheckId) : Option Check :=
  r.checks[(build, id)]?

/-- The check of a build with an id that was taken from this registry before. -/
def require (r : Registry) (build : Build) (id : CheckId) : Except Fault Check :=
  match r.get? build id with
  | some c => .ok c
  | none => .error (.desync build id)

/-- What the answer to a check is compared with, if it is compared. -/
def expectation? (r : Registry) (build : Build) (id : CheckId) : Option Bytes :=
  (r.get? build id).bind (·.kind.expectation?)

/-- The ids of a build's checks in one pool; there are none of a build without checks. -/
def poolIds (r : Registry) (build : Build) (pool : Pool) : List CheckId :=
  match r.pools[build]? with
  | some pools => pools.ids pool
  | none => []

/-- The checks of a build, found by the ids of both pools in ascending order. -/
def definitions (r : Registry) (build : Build) : List Check :=
  (r.poolIds build .primary ++ r.poolIds build .secondary).mergeSort.filterMap (r.get? build)

/-- The builds that have pools. -/
def builds (r : Registry) : List Build :=
  r.pools.keys

/-- The number of checks. -/
def size (r : Registry) : Nat :=
  r.checks.size

/-- Whether there are no checks. -/
def isEmpty (r : Registry) : Bool :=
  r.checks.isEmpty

/-- What a registry answers. -/
def answers (r : Registry) : Catalog.Answers where
  get? := r.get?
  require := r.require
  expectation? := r.expectation?
  poolIds := r.poolIds
  definitions := r.definitions
  builds := r.builds
  size := r.size
  isEmpty := r.isEmpty

/-! ### Two loads -/

/-- Whether two loads end alike: refused with the same fault, or with results that are related. -/
inductive Alike {α β : Type} (related : α → β → Prop) : Except Fault α → Except Fault β → Prop
  | error (fault : Fault) : Alike related (.error fault) (.error fault)
  | ok {a : α} {b : β} (h : related a b) : Alike related (.ok a) (.ok b)

/-- Whether a registry holds the checks of a catalog, its pools being in any order. -/
structure Holds (r : Registry) (catalog : Catalog) : Prop where
  table : ∀ build id, r.get? build id = catalog.get? build id
  pools : ∀ build pool, (r.poolIds build pool).Perm (catalog.poolIds build pool)
  builds : ∀ build, build ∈ r.pools ↔ build ∈ catalog.builds
  size : r.size = catalog.size

theorem poolIds_eq (r : Registry) (build : Build) (pool : Pool) :
    r.poolIds build pool = (r.pools[build]?.getD {}).ids pool := by
  unfold poolIds
  cases r.pools[build]? with
  | some pools => rfl
  | none => cases pool <;> rfl

theorem holds_empty : empty.Holds Catalog.empty where
  table build id := by simp [get?, empty, Catalog.get?, Catalog.empty]
  pools build pool := by
    rw [poolIds_eq]
    cases pool <;> simp [empty, Pools.ids, Catalog.poolIds, Catalog.definitions, Catalog.empty]
  builds build := by
    rw [(Catalog.builds_spec _).2]
    simp [empty, Catalog.empty]
  size := by simp [size, empty, Catalog.size, Catalog.empty]

/-! ### Adding a check -/

end Registry

namespace Catalog

variable {catalog next : Catalog} {c : Check}

theorem get?_of_insert (added : catalog.insert c = .ok next) (build : Build) (id : CheckId) :
    next.get? build id = if c.key = (build, id) then some c else catalog.get? build id := by
  have perm := (insert_of_ok added).2
  by_cases own : c.key = (build, id)
  · rw [if_pos own]
    exact get?_eq_some_iff.2 ⟨perm.mem_iff.2 List.mem_cons_self, Prod.mk.inj own⟩
  · rw [if_neg own]
    ext d
    rw [get?_eq_some_iff, get?_eq_some_iff, perm.mem_iff, List.mem_cons]
    constructor
    · rintro ⟨rfl | mem, rfl, rfl⟩
      · exact absurd rfl own
      · exact ⟨mem, rfl, rfl⟩
    · rintro ⟨mem, here⟩
      exact ⟨.inr mem, here⟩

theorem poolIds_of_insert (added : catalog.insert c = .ok next) (build : Build) (pool : Pool) :
    (next.poolIds build pool).Perm
      (if c.build = build ∧ c.kind.pool = pool then catalog.poolIds build pool ++ [c.id]
        else catalog.poolIds build pool) := by
  have perm := (((insert_of_ok added).2.filter (·.build = build)).filter
    (·.kind.pool = pool)).map (·.id)
  refine perm.trans ?_
  by_cases own : c.build = build
  · by_cases kind : c.kind.pool = pool
    · rw [if_pos ⟨own, kind⟩, List.filter_cons_of_pos (by simpa using own),
        List.filter_cons_of_pos (by simpa using kind), List.map_cons]
      exact (List.perm_append_singleton _ _).symm
    · rw [if_neg fun both => kind both.2, List.filter_cons_of_pos (by simpa using own),
        List.filter_cons_of_neg (by simpa using kind)]
      exact .refl _
  · rw [if_neg fun both => own both.1, List.filter_cons_of_neg (by simpa using own)]
    exact .refl _

theorem mem_builds_of_insert (added : catalog.insert c = .ok next) (build : Build) :
    build ∈ next.builds ↔ c.build = build ∨ build ∈ catalog.builds := by
  simp only [(builds_spec _).2, (insert_of_ok added).2.mem_iff, List.mem_cons,
    or_and_right, exists_or, exists_eq_left]

theorem size_of_insert (added : catalog.insert c = .ok next) : next.size = catalog.size + 1 :=
  (insert_of_ok added).2.length_eq

end Catalog

namespace Registry

variable {r : Registry} {catalog : Catalog} {c : Check}

/-- A key that is taken in one is taken in the other. -/
theorem Holds.mem_iff (h : r.Holds catalog) (c : Check) :
    c.key ∈ r.checks ↔ c.key ∈ catalog.checks.map Check.key := by
  have found : r.checks[c.key]? = catalog.get? c.build c.id := h.table c.build c.id
  rw [Std.HashMap.mem_iff_isSome_getElem?, found, Option.isSome_iff_exists, List.mem_map]
  refine exists_congr fun d => ?_
  rw [Catalog.get?_eq_some_iff, Check.key, Check.key, Prod.mk.injEq]

theorem get?_push (r : Registry) (c : Check) (build : Build) (id : CheckId) :
    (r.push c).get? build id = if c.key = (build, id) then some c else r.get? build id := by
  refine Std.HashMap.getElem?_insert.trans ?_
  simp only [beq_iff_eq]
  rfl

theorem poolIds_push (r : Registry) (c : Check) (build : Build) (pool : Pool) :
    (r.push c).poolIds build pool =
      if c.build = build ∧ c.kind.pool = pool then r.poolIds build pool ++ [c.id]
      else r.poolIds build pool := by
  have inserted : (r.push c).pools[build]? =
      if c.build = build then some ((r.pools[c.build]?.getD {}).push c) else r.pools[build]? := by
    refine Std.TreeMap.getElem?_insert.trans ?_
    simp only [Std.LawfulEqCmp.compare_eq_iff_eq]
  rw [poolIds_eq, poolIds_eq, inserted]
  by_cases own : c.build = build
  · subst own
    simp only [if_true, Option.getD_some, Pools.ids_push, true_and]
  · rw [if_neg own, if_neg fun both => own both.1]

theorem mem_pools_push (r : Registry) (c : Check) (build : Build) :
    build ∈ (r.push c).pools ↔ c.build = build ∨ build ∈ r.pools := by
  refine Std.TreeMap.mem_insert.trans ?_
  rw [Std.LawfulEqCmp.compare_eq_iff_eq]

theorem size_push (fresh : c.key ∉ r.checks) : (r.push c).size = r.size + 1 :=
  Std.HashMap.size_insert.trans (if_neg fresh)

/-- A registry and a catalog that hold the same checks do so with one check more. -/
theorem Holds.push {next : Catalog} (h : r.Holds catalog) (fresh : c.key ∉ r.checks)
    (added : catalog.insert c = .ok next) : (r.push c).Holds next where
  table build id := by rw [get?_push, Catalog.get?_of_insert added, h.table]
  pools build pool := by
    refine List.Perm.trans ?_ (Catalog.poolIds_of_insert added build pool).symm
    rw [poolIds_push]
    split
    · exact (h.pools build pool).append_right [c.id]
    · exact h.pools build pool
  builds build := by rw [mem_pools_push, Catalog.mem_builds_of_insert added, h.builds]
  size := by rw [size_push fresh, Catalog.size_of_insert added, h.size]

/-- **A check is added to both, or refused by both with the same fault.** -/
theorem Holds.add (h : r.Holds catalog) (c : Check) :
    Alike Holds (r.add c) (catalog.insert c) := by
  rw [Registry.add]
  cases sound : c.defect? with
  | some defect =>
    rw [Catalog.insert_of_defect sound]
    exact .error _
  | none =>
    by_cases taken : c.key ∈ r.checks
    · rw [Catalog.insert_of_taken sound ((h.mem_iff c).1 taken)]
      simp only [if_pos taken]
      exact .error _
    · obtain ⟨next, added⟩ := Catalog.exists_insert sound fun d hd same =>
        taken ((h.mem_iff c).2 (same ▸ List.mem_map_of_mem hd))
      rw [added]
      simp only [if_neg taken]
      exact .ok (h.push taken added)

theorem Holds.addAll (h : r.Holds catalog) (checks : List Check) :
    Alike Holds (r.addAll checks) (catalog.insertAll checks) := by
  induction checks generalizing r catalog with
  | nil => exact .ok h
  | cons c rest ih =>
    have first := h.add c
    rw [Registry.addAll, Catalog.insertAll]
    generalize r.add c = added at first ⊢
    generalize catalog.insert c = added' at first ⊢
    cases first with
    | error fault => exact .error fault
    | ok held => exact ih held

/-! ### Sorting -/

theorem poolIds_sort (r : Registry) (build : Build) (pool : Pool) :
    r.sort.poolIds build pool = (r.poolIds build pool).mergeSort := by
  unfold poolIds
  rw [sort, Std.TreeMap.getElem?_map]
  cases r.pools[build]? with
  | some pools => exact Pools.ids_sort pools pool
  | none => simp

/-- Sorting has one result, whatever the order was before. -/
theorem mergeSort_eq {ids ascending : List CheckId} (perm : ids.Perm ascending)
    (sorted : ascending.Pairwise (· < ·)) : ids.mergeSort = ascending := by
  have least : ids.mergeSort.Pairwise (· ≤ ·) := by
    have trans : ∀ a b c : CheckId, decide (a ≤ b) = true → decide (b ≤ c) = true →
        decide (a ≤ c) = true := fun a b c => by simpa using UInt16.le_trans
    have total : ∀ a b : CheckId, (decide (a ≤ b) || decide (b ≤ a)) = true :=
      fun a b => by simpa using UInt16.le_total a b
    exact (List.pairwise_mergeSort trans total ids).imp of_decide_eq_true
  exact List.Perm.eq_of_pairwise (fun a b _ _ => UInt16.le_antisymm) least
    (sorted.imp UInt16.le_of_lt) ((List.mergeSort_perm _ _).trans perm)

theorem Holds.poolIds_sort (h : r.Holds catalog) (build : Build) (pool : Pool) :
    r.sort.poolIds build pool = catalog.poolIds build pool := by
  rw [Registry.poolIds_sort]
  exact mergeSort_eq (h.pools build pool) (catalog.poolIds_ascending build pool)

theorem Holds.definitions_sort (h : r.Holds catalog) (build : Build) :
    r.sort.definitions build = catalog.definitions build := by
  have ids : (catalog.poolIds build .primary ++ catalog.poolIds build .secondary).mergeSort =
      (catalog.definitions build).map (·.id) :=
    mergeSort_eq (catalog.poolIds_perm build)
      (List.pairwise_map.2 (catalog.definitions_ascending build))
  have table : r.sort.get? build = catalog.get? build := funext (h.table build)
  rw [definitions, h.poolIds_sort, h.poolIds_sort, ids, table]
  exact catalog.found_definitions build

theorem Holds.builds_sort (h : r.Holds catalog) : r.sort.builds = catalog.builds := by
  have keys : r.sort.builds = r.pools.keys := Std.TreeMap.keys_map
  have ascending : r.pools.keys.Pairwise (· < ·) :=
    Std.TreeMap.ordered_keys.imp Std.compare_eq_lt.1
  have ascending' := catalog.builds_spec.1
  rw [keys]
  refine List.Perm.eq_of_pairwise (fun a b _ _ lower higher => ?_) ascending ascending' ?_
  · exact absurd higher (UInt16.lt_asymm lower)
  · refine (List.perm_ext_iff_of_nodup (ascending.imp UInt16.ne_of_lt)
      (ascending'.imp UInt16.ne_of_lt)).2 fun build => ?_
    rw [Std.TreeMap.mem_keys, h.builds]

/-- A registry that holds the checks of a catalog answers as it does, once the pools are sorted. -/
theorem Holds.answers_sort (h : r.Holds catalog) : r.sort.answers = catalog.answers := by
  have get : r.sort.get? = catalog.get? := funext fun build => funext (h.table build)
  have size : r.checks.size = catalog.checks.length := h.size
  ext1
  · exact get
  · funext build id
    show r.sort.require build id = catalog.require build id
    cases found : catalog.get? build id with
    | some c => rw [Catalog.require_of_get? found, require, get, found]
    | none => rw [require, get, Catalog.require, found]
  · funext build id
    show r.sort.expectation? build id = catalog.expectation? build id
    rw [expectation?, get, Catalog.expectation?]
  · exact funext fun build => funext (h.poolIds_sort build)
  · exact funext h.definitions_sort
  · exact h.builds_sort
  · exact size
  · show r.checks.isEmpty = catalog.checks.isEmpty
    rw [Std.HashMap.isEmpty_eq_size_eq_zero, size]
    cases catalog.checks <;> rfl

/-! ### Every list -/

/-- **A registry answers as the catalog does**, and a list that one of them refuses is refused by
the other with the same fault. -/
theorem answers_ofChecks (checks : List Check) :
    (ofChecks checks).map answers = (Catalog.ofChecks checks).map Catalog.answers := by
  have loads := holds_empty.addAll checks
  rw [ofChecks, Catalog.ofChecks]
  generalize empty.addAll checks = result at loads ⊢
  generalize Catalog.empty.insertAll checks = result' at loads ⊢
  cases loads with
  | error fault => rfl
  | ok held => exact congrArg Except.ok held.answers_sort

theorem map_eq_ok_iff {α β : Type} {load : Except Fault α} {f : α → β} {b : β} :
    load.map f = .ok b ↔ ∃ a, load = .ok a ∧ f a = b := by
  cases load <;> simp [Except.map]

/-- A registry and a catalog of the same list answer alike, and there is one just if there is the
other. -/
theorem ofChecks_answers_iff {checks : List Check} {a : Catalog.Answers} :
    (∃ registry, ofChecks checks = .ok registry ∧ registry.answers = a) ↔
      ∃ catalog, Catalog.ofChecks checks = .ok catalog ∧ catalog.answers = a := by
  rw [← map_eq_ok_iff, ← map_eq_ok_iff, answers_ofChecks]

end Registry

namespace Catalog

/-- **A catalog is a faithful index of its list of checks, and the order of the list leaves no
trace.** A list has a catalog just if no check has a defect and no two have the same id of the same
build; the catalog then answers as the list does; and a list in another order has the very same
catalog, or has none either. A registry, which keeps the checks in a table and their ids in pools,
is loaded from the same lists, refuses any other with the same fault, and answers the same. -/
theorem ofChecks_indexes (checks : List Check) :
    ((∃ catalog, ofChecks checks = .ok catalog) ↔
      (∀ c ∈ checks, c.defect? = none) ∧ (checks.map fun c => (c.build, c.id)).Nodup) ∧
    (∀ catalog, ofChecks checks = .ok catalog → catalog.answers.Index checks) ∧
    (∀ reordered : List Check, reordered.Perm checks →
      ∀ catalog, ofChecks reordered = .ok catalog ↔ ofChecks checks = .ok catalog) ∧
    (Registry.ofChecks checks).map Registry.answers = (ofChecks checks).map answers ∧
    (∀ registry, Registry.ofChecks checks = .ok registry → registry.answers.Index checks) ∧
    ∀ reordered : List Check, reordered.Perm checks → ∀ a,
      (∃ registry, Registry.ofChecks reordered = .ok registry ∧ registry.answers = a) ↔
        ∃ registry, Registry.ofChecks checks = .ok registry ∧ registry.answers = a := by
  have index : ∀ catalog, ofChecks checks = .ok catalog → catalog.answers.Index checks :=
    fun catalog loaded => index_of_perm (ofChecks_eq_ok_iff.1 loaded)
  have order : ∀ reordered : List Check, reordered.Perm checks →
      ∀ catalog, ofChecks reordered = .ok catalog ↔ ofChecks checks = .ok catalog := by
    intro reordered perm catalog
    rw [ofChecks_eq_ok_iff, ofChecks_eq_ok_iff]
    exact ⟨fun held => held.trans perm, fun held => held.trans perm.symm⟩
  refine ⟨exists_ofChecks_iff, index, order, Registry.answers_ofChecks checks, ?_, ?_⟩
  · intro registry loaded
    obtain ⟨catalog, loaded', same⟩ := Registry.ofChecks_answers_iff.1 ⟨registry, loaded, rfl⟩
    exact same ▸ index catalog loaded'
  · intro reordered perm a
    simp only [Registry.ofChecks_answers_iff, order reordered perm]

/-- The checks of the sample, added from the last to the first. -/
theorem sample_checks_indexed :
    ∃ registry, Registry.ofChecks sample.checks.reverse = .ok registry ∧
      registry.poolIds 5875 .primary = [1, 7] ∧
      registry.poolIds 5875 .secondary = [2, 3, 4, 5, 6] ∧ registry.builds = [5875] ∧
      registry.answers.Index sample.checks.reverse := by
  have loaded : ofChecks sample.checks.reverse = .ok sample :=
    ofChecks_eq_ok_iff.2 (List.reverse_perm _).symm
  obtain ⟨-, -, -, same, index, -⟩ := ofChecks_indexes sample.checks.reverse
  rw [loaded] at same
  obtain ⟨registry, loaded', answers⟩ := Registry.map_eq_ok_iff.1 same
  have pools : registry.poolIds = sample.poolIds := congrArg Answers.poolIds answers
  have builds : registry.builds = sample.builds := congrArg Answers.builds answers
  refine ⟨registry, loaded', ?_, ?_, ?_, index registry loaded'⟩
  · rw [pools]
    rfl
  · rw [pools]
    rfl
  · rw [builds]
    rfl

end Catalog

end Attest
