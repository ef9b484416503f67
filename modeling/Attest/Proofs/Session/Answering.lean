import Attest.Proofs.Schedule.Passes
import Attest.Proofs.Session.Correlation

/-!
# Room for answers

How many bytes an answer covers is told by a word of two bytes, and every check of a challenge
takes its part of them. `Session.challenge_answerable_iff` tells which challenges of a session can
be answered: just those whose least answer the word can count. It can if there are not too many
memory checks in a challenge, but no configuration is refused for a primary quota that is too large:
`Session.unanswerable_challenge` is a session whose challenge no answer is clean for.
-/

namespace Attest

namespace Response

/-- Whether a body is found to be a clean answer to the checks with these ids. -/
def FoundClean (catalog : Catalog) (build : Build) (ids : List CheckId) (body : Bytes)
    (elapsed : UInt32) : Prop :=
  ∃ examination, validate catalog build ids body elapsed = .ok examination ∧
    examination.outcome.isClean = true

variable {catalog : Catalog} {build : Build} {ids : List CheckId} {checks : List Check}

theorem foundClean_iff (defined : catalog.Defines build ids checks) (body : Bytes)
    (elapsed : UInt32) :
    FoundClean catalog build ids body elapsed ↔
      (examine checks body elapsed).outcome.isClean = true := by
  have read : validate catalog build ids body elapsed = .ok (examine checks body elapsed) := by
    rw [validate, requireAll_of_defined defined]
    rfl
  rw [FoundClean, read]
  constructor
  · rintro ⟨examination, ⟨⟩, clean⟩
    exact clean
  · intro clean
    exact ⟨_, rfl, clean⟩

/-- If there is room, the answer of an untampered client is found clean. -/
theorem foundClean_untampered (defined : catalog.Defines build ids checks)
    (room : leastCovered checks ≤ 65535) (elapsed : UInt32) :
    FoundClean catalog build ids (frame (Answer.untampered checks).covered) elapsed := by
  have honest := honest_untampered defined.defect? room
  rw [foundClean_iff defined, honest.outcome]
  exact honest.isClean elapsed

theorem leastLength_le_of_secondary {kind : Check.Kind} (h : kind.pool = .secondary) :
    Entry.leastLength kind ≤ 21 := by
  cases kind with
  | memory => cases h
  | _ => simp [Entry.leastLength]

end Response

namespace Session

open Response (FoundClean leastCovered)

variable {engine : Engine} {s : Session}

/-- The checks of a challenge are drawn by a session in order. -/
theorem Sound.exists_selection (h : s.Sound engine) {calls : List Call} {c : Challenge}
    (sent : c ∈ s.challenges engine calls) :
    ∃ t : Session, t.Sound engine ∧ t.build = s.build ∧
      c.inFlight = (t.selection engine).inFlight := by
  induction calls generalizing s with
  | nil => exact absurd sent List.not_mem_nil
  | cons call rest ih =>
    rcases List.mem_append.1 sent with here | later
    · obtain ⟨now, seeds, left, rfl, -, built⟩ := exists_of_issued (Option.mem_toList.1 here)
      obtain ⟨-, es, rfl, -⟩ := Challenge.ofSelection_of_ok h.selection_of built
      exact ⟨s, h, rfl, rfl⟩
    · obtain ⟨t, sound, build, drawn⟩ := ih (h.call call) later
      exact ⟨t, sound, build.trans (build_call engine s call), drawn⟩

/-- What a cycle draws needs no more room than the quotas allow for. -/
theorem Sound.leastCovered_selection_le (h : s.Sound engine) :
    leastCovered (engine.catalog.found s.build (s.selection engine).inFlight) ≤
      5 + (256 * engine.config.scheduling.primaryQuota +
        21 * engine.config.scheduling.secondaryQuota) := by
  have primary := Response.sum_leastLength_le
    fun c (_ : c ∈ engine.catalog.found s.build (s.selection engine).primary) =>
      Response.leastLength_le c.kind
  have secondary := Response.sum_leastLength_le fun c hc =>
    Response.leastLength_le_of_secondary
      (Catalog.pool_of_mem_found h.selection_of.secondary c hc)
  have fewPrimary : (engine.catalog.found s.build (s.selection engine).primary).length ≤ _ :=
    Nat.le_trans (List.length_filterMap_le _ _) h.length_primary_le
  have fewSecondary : (engine.catalog.found s.build (s.selection engine).secondary).length ≤ _ :=
    Nat.le_trans (List.length_filterMap_le _ _) h.length_secondary_le
  rw [leastCovered, Selection.inFlight, Catalog.found_append, List.map_append, List.sum_append]
  omega

/-- A session may send a challenge for what the first cycle draws. -/
theorem exists_first_challenge (engine : Engine)
    (quota : engine.config.scheduling.secondaryQuota ≤ 255) (build : Build) (seeds : SeedStream) :
    ∃ account secret now seeds' wire s later calls c,
      start engine account build secret now seeds' = (.ok (wire, s), later) ∧
      c ∈ s.challenges engine calls ∧
      c.inFlight = ((Scheduler.start engine.config.scheduling seeds.next64.1).nextCycle
        engine.catalog build).1.inFlight := by
  obtain ⟨account, secret, now, seeds', wire, s, later, calls, started, due, scheduler⟩ :=
    Exchange.exists_due engine build 0 seeds
  have sound := (sound_of_start started).after calls
  obtain ⟨c, left, built, ids⟩ := sound.exists_nextChallenge quota seeds
  refine ⟨account, secret, now, seeds', wire, s, later,
    calls ++ [.tick (0 + engine.config.timing.interval.toNat) seeds], c, started, ?_, ?_⟩
  · rw [challenges_append, challenges, issued_due due built]
    simp
  · rw [ids, selection, scheduler, build_after, build_of_start started]

/-- **A challenge can be answered just if its least answer can be counted.** Take any challenge that
a session sends after its start. If the timing probe and the least entries of its checks come to at
most 65535 bytes, there is a body that is found clean, whenever it arrives; if they come to more, no
body ever is. There is room in every challenge if the quotas are not too large: 256 bytes for each
primary check, 21 for each secondary one. -/
theorem challenge_answerable_iff {account : UInt32} {build : Build} {secret : Bytes} {now : Nat}
    {seeds later : SeedStream} {wire : Bytes}
    (started : start engine account build secret now seeds = (.ok (wire, s), later))
    {calls : List Call} {c : Challenge} (sent : c ∈ s.challenges engine calls) :
    (leastCovered (engine.catalog.found build c.inFlight) ≤ 65535 →
      ∃ body, ∀ elapsed, FoundClean engine.catalog build c.inFlight body elapsed) ∧
    (65535 < leastCovered (engine.catalog.found build c.inFlight) →
      ∀ body elapsed, ¬ FoundClean engine.catalog build c.inFlight body elapsed) ∧
    (256 * engine.config.scheduling.primaryQuota +
        21 * engine.config.scheduling.secondaryQuota ≤ 65530 →
      leastCovered (engine.catalog.found build c.inFlight) ≤ 65535) := by
  obtain ⟨t, sound, same, drawn⟩ := (sound_of_start started).exists_selection sent
  obtain rfl : t.build = build := same.trans (build_of_start started)
  have defined : engine.catalog.Defines t.build c.inFlight
      (engine.catalog.found t.build c.inFlight) := by
    rw [drawn]
    exact sound.selection_of.defined
  refine ⟨?_, ?_, ?_⟩
  · intro room
    exact ⟨_, Response.foundClean_untampered defined room⟩
  · intro full body elapsed clean
    rw [Response.foundClean_iff defined] at clean
    exact absurd (Response.leastCovered_le_of_clean clean) (Nat.not_le.2 full)
  · intro quotas
    have least := sound.leastCovered_selection_le
    rw [drawn]
    omega

theorem sample_answerable :
    ∃ account secret now seeds wire s later calls c body,
      start Engine.sample account 5875 secret now seeds = (.ok (wire, s), later) ∧
      c ∈ s.challenges Engine.sample calls ∧
      ∀ elapsed, FoundClean Engine.sample.catalog 5875 c.inFlight body elapsed := by
  obtain ⟨account, secret, now, seeds, wire, s, later, calls, c, started, sent, -⟩ :=
    exists_first_challenge Engine.sample (by decide) 5875 (.ofSeed 1)
  obtain ⟨answered, -, room⟩ := challenge_answerable_iff started sent
  obtain ⟨body, clean⟩ := answered (room (by decide))
  exact ⟨account, secret, now, seeds, wire, s, later, calls, c, body, started, sent, clean⟩

end Session

/-! ### A challenge without room -/

/-- The widest memory check with this id. -/
def Check.wide (id : CheckId) : Check :=
  ⟨id, 5875, .memory 0x00401000 255 (List.replicate 255 0), ""⟩

theorem Check.kindDefect?_wide (id : CheckId) : (wide id).kind.defect? = none := by
  show memoryDefect? 255 (List.replicate 255 0) = none
  rw [memoryDefect?, if_neg (by decide), List.length_replicate, if_neg (by decide)]

namespace Catalog

/-- 256 of the widest memory checks, with the ids from 1 on. -/
def wideChecks : List Check :=
  (List.range 256).map fun n => Check.wide (UInt16.ofNat (n + 1))

theorem pairwise_rank_wideChecks : wideChecks.Pairwise fun a b => a.rank < b.rank :=
  pairwise_rank_numberedChecks _ _ (by decide)

theorem defect?_of_mem_wideChecks : ∀ c ∈ wideChecks, c.defect? = none :=
  defect?_of_mem_numberedChecks (Check.kindDefect?_wide 1) (by decide)

theorem eq_wide_of_mem {c : Check} (mem : c ∈ wideChecks) : ∃ id, c = Check.wide id := by
  obtain ⟨n, -, rfl⟩ := List.mem_map.1 mem
  exact ⟨_, rfl⟩

/-- The catalog of these checks. -/
def wide : Catalog :=
  ⟨wideChecks, pairwise_rank_wideChecks, defect?_of_mem_wideChecks⟩

theorem length_poolIds_wide : (wide.poolIds 5875 .primary).length = 256 := by
  have all : (wide.definitions 5875).filter (·.kind.pool = .primary) = wideChecks :=
    filter_numberedChecks 5875 (.memory 0x00401000 255 (List.replicate 255 0)) 256
  rw [poolIds, all, List.length_map]
  exact length_numberedChecks _ _ _

/-- Each of the checks takes 256 bytes of an answer. -/
theorem leastCovered_wide {ids : List CheckId} {checks : List Check}
    (defined : wide.Defines 5875 ids checks) :
    Response.leastCovered checks = 5 + 256 * ids.length := by
  rw [Response.leastCovered]
  congr 1
  induction defined with
  | nil => rfl
  | cons here _ ih =>
    obtain ⟨id, rfl⟩ := eq_wide_of_mem (mem_of_get? here).1
    rw [List.map_cons, List.sum_cons, ih, List.length_cons, Nat.mul_succ, Nat.add_comm]
    rfl

end Catalog

/-- An engine that asks all of these checks at once. -/
def Engine.wide : Engine where
  catalog := Catalog.wide
  image := Engine.sample.image
  config := { scheduling := { primaryQuota := 256, secondaryQuota := 0, shuffle := false } }

/-- The first cycle asks for all of them. -/
theorem Engine.length_first_wide (seed : UInt64) :
    ((Scheduler.start wide.config.scheduling seed).nextCycle
      wide.catalog 5875).1.primary.length = 256 := by
  obtain ⟨shuffler, plain, drawn, -⟩ := Scheduler.nextCycle_of_pool wide.catalog 5875
    (Scheduler.start wide.config.scheduling seed) .primary
  obtain rfl : shuffler = none := plain rfl
  have pool : (wide.catalog.poolIds 5875 .primary).length = 256 := Catalog.length_poolIds_wide
  rw [Selection.fromPool] at drawn
  rw [drawn, Scheduler.length_drawn, Scheduler.filled, if_pos (by rfl), pool]
  rfl

/-- **There is a challenge that nobody can answer.** The configuration can be used, and an
untampered client loads the module and proves it; then it is asked for 256 times 255 bytes of memory
at once, and no body is ever found clean. -/
theorem Session.unanswerable_challenge :
    Engine.wide.config.fault? = none ∧
      ∃ account secret now seeds wire s later calls c,
        start Engine.wide account 5875 secret now seeds = (.ok (wire, s), later) ∧
        c ∈ s.challenges Engine.wide calls ∧
        ∀ body elapsed,
          ¬ Response.FoundClean Engine.wide.catalog 5875 c.inFlight body elapsed := by
  refine ⟨by decide, ?_⟩
  obtain ⟨account, secret, now, seeds, wire, s, later, calls, c, started, sent, ids⟩ :=
    exists_first_challenge Engine.wide (by decide) 5875 (.ofSeed 1)
  have defined : Catalog.wide.Defines 5875 c.inFlight (Catalog.wide.found 5875 c.inFlight) := by
    rw [ids]
    exact (Scheduler.nextCycle_of (Scheduler.stocked_start _ _)).defined
  have many : 256 ≤ c.inFlight.length := by
    have first := Engine.length_first_wide (SeedStream.ofSeed 1).next64.1
    rw [ids, Selection.inFlight, List.length_append, first]
    exact Nat.le_add_right _ _
  refine ⟨account, secret, now, seeds, wire, s, later, calls, c, started, sent, ?_⟩
  intro body elapsed clean
  have room := Response.leastCovered_le_of_clean
    ((Response.foundClean_iff defined body elapsed).1 clean)
  rw [Catalog.leastCovered_wide defined] at room
  omega

end Attest
