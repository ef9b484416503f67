import Attest.Proofs.Catalog
import Attest.Schedule

/-!
# What a cycle draws

A stock holds ids of its own pool only (`Scheduler.Stocked`), and drawing a cycle keeps it so. What
a cycle draws is then a selection of the two pools (`Scheduler.nextCycle_of`), with no more
secondary checks than the quota.
-/

namespace Attest

/-- Whether a selection draws each check from its own pool. -/
structure Selection.Of (catalog : Catalog) (build : Build) (s : Selection) : Prop where
  primary : ∀ id ∈ s.primary, id ∈ catalog.poolIds build .primary
  secondary : ∀ id ∈ s.secondary, id ∈ catalog.poolIds build .secondary

theorem Selection.Of.defined {catalog : Catalog} {build : Build} {s : Selection}
    (h : s.Of catalog build) :
    catalog.Defines build s.inFlight (catalog.found build s.inFlight) := by
  refine Catalog.defines_found fun id hid => ?_
  rcases List.mem_append.1 hid with hid | hid
  · exact Catalog.isSome_of_mem_poolIds (h.primary id hid)
  · exact Catalog.isSome_of_mem_poolIds (h.secondary id hid)

namespace SeedStream

variable {α : Type}

theorem swapIfInBounds_perm (items : Array α) (i j : Nat) :
    (items.swapIfInBounds i j).Perm items := by
  rw [Array.swapIfInBounds_def]
  split
  · split
    · exact Array.swap_perm _ _
    · exact .refl items
  · exact .refl items

theorem shuffleFrom_perm (items : Array α) (s : SeedStream) (i : Nat) :
    (shuffleFrom items s i).1.Perm items := by
  induction i generalizing items s with
  | zero => exact .refl items
  | succ i ih =>
    rw [shuffleFrom]
    exact (ih _ _).trans (swapIfInBounds_perm _ _ _)

/-- Shuffling only changes the order. -/
theorem shuffle_perm (items : List α) (s : SeedStream) : (s.shuffle items).1.Perm items := by
  have perm := shuffleFrom_perm items.toArray s (items.length - 1)
  exact Array.perm_iff_toList_perm.1 perm

end SeedStream

namespace Scheduler

/-! ### Filling and drawing -/

/-- A stock is filled with the ids of its pool only. -/
theorem mem_filled {ids stock : List CheckId} {shuffler : Option SeedStream} {id : CheckId}
    (h : id ∈ (filled ids stock shuffler).1) : id ∈ ids ∨ id ∈ stock := by
  unfold filled at h
  split at h
  · cases shuffler with
    | none => exact .inl h
    | some seeds => exact .inl ((seeds.shuffle_perm ids).mem_iff.1 h)
  · exact .inr h

theorem mem_drawn {quota : Nat} {stock : List CheckId} {id : CheckId}
    (h : id ∈ (draw quota stock).1) : id ∈ stock :=
  List.mem_of_mem_drop (List.mem_reverse.1 h)

theorem mem_kept {quota : Nat} {stock : List CheckId} {id : CheckId}
    (h : id ∈ (draw quota stock).2) : id ∈ stock :=
  List.mem_of_mem_take h

theorem length_drawn (quota : Nat) (stock : List CheckId) :
    (draw quota stock).1.length = min quota stock.length := by
  rw [draw, List.length_reverse, List.length_drop]
  omega

theorem length_drawn_le (quota : Nat) (stock : List CheckId) :
    (draw quota stock).1.length ≤ quota := by
  rw [length_drawn]
  exact Nat.min_le_left _ _

/-! ### Cycles -/

/-- Whether each stock holds ids of its own pool only. -/
structure Stocked (catalog : Catalog) (build : Build) (s : Scheduler) : Prop where
  primary : ∀ id ∈ s.primary, id ∈ catalog.poolIds build .primary
  secondary : ∀ id ∈ s.secondary, id ∈ catalog.poolIds build .secondary

variable {catalog : Catalog} {build : Build} {s : Scheduler}

theorem stocked_start (config : Config.Scheduling) (seed : UInt64) :
    (start config seed).Stocked catalog build :=
  ⟨nofun, nofun⟩

theorem Stocked.nextCycle (h : s.Stocked catalog build) :
    (s.nextCycle catalog build).2.Stocked catalog build where
  primary _ hid := (mem_filled (mem_kept hid)).elim id (h.primary _)
  secondary _ hid := (mem_filled (mem_kept hid)).elim id (h.secondary _)

/-- A cycle draws each check from its own pool. -/
theorem nextCycle_of (h : s.Stocked catalog build) :
    (s.nextCycle catalog build).1.Of catalog build where
  primary _ hid := (mem_filled (mem_drawn hid)).elim id (h.primary _)
  secondary _ hid := (mem_filled (mem_drawn hid)).elim id (h.secondary _)

theorem length_primary_le (catalog : Catalog) (build : Build) (s : Scheduler) :
    (s.nextCycle catalog build).1.primary.length ≤ s.primaryQuota :=
  length_drawn_le _ _

theorem length_secondary_le (catalog : Catalog) (build : Build) (s : Scheduler) :
    (s.nextCycle catalog build).1.secondary.length ≤ s.secondaryQuota :=
  length_drawn_le _ _

end Scheduler

end Attest
