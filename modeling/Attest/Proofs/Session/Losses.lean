import Attest.Proofs.Schedule.Passes
import Attest.Proofs.Session.Correlation

/-!
# Challenges that are lost

The checks of a challenge that is due are drawn first, and then the challenge is built. It cannot be
built if an index cannot tell its strings apart; the checks are drawn all the same, so they are not
asked before their pool is filled again.

* `Session.drawings` : the selections that a row of calls draws, which are the cycles of the
  schedule one after the other (`Session.drawings_eq`);
* `Session.Sound.challenges_eq` : the challenges that are sent are the drawings that can be built;
* `Session.failed_challenge_loses_checks` : **a challenge that fails loses its checks, and nothing
  else**; no challenge fails if the quota is one that an index can count;
* `Session.lost_checks` : a session that never asks 256 of its 257 checks.
-/

namespace Attest

/-! ### Cycles -/

/-- Whether an index can tell the strings of the checks apart. -/
def Selection.Fits (catalog : Catalog) (build : Build) (s : Selection) : Prop :=
  (catalog.found build s.inFlight).countP (·.kind.string?.isSome) ≤ 255

instance {catalog : Catalog} {build : Build} (s : Selection) : Decidable (s.Fits catalog build) :=
  inferInstanceAs (Decidable (_ ≤ _))

theorem Selection.fits_iff {catalog : Catalog} {build : Build} {s : Selection} :
    s.Fits catalog build ↔
      (Challenge.texts (catalog.found build s.inFlight)).length ≤ 255 := by
  rw [Challenge.length_texts, Fits]

namespace Scheduler

variable {catalog : Catalog} {build : Build}

theorem afterCycles_nextCycle (s : Scheduler) (n : Nat) :
    (s.nextCycle catalog build).2.afterCycles catalog build n =
      s.afterCycles catalog build (n + 1) := by
  induction n with
  | zero => rfl
  | succ n ih => rw [afterCycles, ih, afterCycles.eq_2 catalog build s (n + 1)]

theorem cycle_nextCycle (s : Scheduler) (n : Nat) :
    (s.nextCycle catalog build).2.cycle catalog build n = s.cycle catalog build (n + 1) := by
  rw [cycle, afterCycles_nextCycle, cycle]

end Scheduler

namespace Session

variable {engine : Engine} {now : Nat} {seeds : SeedStream} {s : Session}

/-! ### Drawings -/

/-- The selection that a call draws, if it draws one. -/
def drawing? (engine : Engine) (s : Session) : Call → Option Selection
  | .receive .. => none
  | .tick now _ => if s.Due engine now then some (s.selection engine) else none

/-- The selections that a row of calls draws, in order. -/
def drawings (engine : Engine) (s : Session) : List Call → List Selection
  | [] => []
  | c :: rest => (s.drawing? engine c).toList ++ drawings engine (s.call engine c).session rest

/-- What a call does to the stocks. -/
inductive Draws (engine : Engine) (s : Session) (c : Call) : Prop
  /-- Nothing. -/
  | kept (none : s.drawing? engine c = none)
      (scheduler : (s.call engine c).session.scheduler = s.scheduler)
  /-- It draws the next cycle, whether a challenge comes of it or not. -/
  | next (drawn : s.drawing? engine c = some (s.selection engine))
      (scheduler : (s.call engine c).session.scheduler =
        (s.scheduler.nextCycle engine.catalog s.build).2)

theorem draws (engine : Engine) (s : Session) (c : Call) : s.Draws engine c := by
  cases c with
  | receive payload now => exact .kept rfl (scheduler_receive engine s payload now)
  | tick now seeds =>
    have ticked := ticked_tick engine now seeds s
    generalize turn : s.tick engine now seeds = result at ticked
    have called : s.call engine (.tick now seeds) = result.1.map .update := by
      rw [call, turn]
    cases ticked with
    | idle early => exact .kept (if_neg early) (by rw [called]; rfl)
    | expired late => exact .kept (if_neg (not_due_of_expired late)) (by rw [called]; rfl)
    | challenged due | unbuilt due => exact .next (if_pos due) (by rw [called]; rfl)

/-- A row of calls draws the cycles of the schedule, one after the other. -/
theorem drawings_eq (engine : Engine) (s : Session) (calls : List Call) :
    s.drawings engine calls =
        (List.range (s.drawings engine calls).length).map
          (s.scheduler.cycle engine.catalog s.build) ∧
      (s.after engine calls).scheduler =
        s.scheduler.afterCycles engine.catalog s.build (s.drawings engine calls).length := by
  induction calls generalizing s with
  | nil => exact ⟨rfl, rfl⟩
  | cons c rest ih =>
    obtain ⟨cycles, stocks⟩ := ih (s.call engine c).session
    rw [build_call] at cycles stocks
    rw [drawings, after, stocks]
    cases draws engine s c with
    | kept none scheduler =>
      rw [scheduler] at cycles ⊢
      rw [none]
      exact ⟨cycles, rfl⟩
    | next drawn scheduler =>
      rw [scheduler] at cycles ⊢
      rw [drawn, Option.toList_some, List.singleton_append, List.length_cons,
        Scheduler.afterCycles_nextCycle, List.range_succ_eq_map, List.map_cons, List.map_map]
      refine ⟨?_, rfl⟩
      congr 1
      rw [cycles, List.length_map, List.length_range]
      exact List.map_congr_left fun n _ => Scheduler.cycle_nextCycle s.scheduler n

/-! ### Challenges that can be built -/

theorem Sound.nextChallenge_of_fits (h : s.Sound engine)
    (fits : (s.selection engine).Fits engine.catalog s.build) (seeds : SeedStream) :
    ∃ c later, s.nextChallenge engine seeds = (.ok c, later) ∧
      c.inFlight = (s.selection engine).inFlight := by
  obtain ⟨es, later, built, -⟩ :=
    Challenge.ofSelection_ok h.selection_of s.keys.tagMask seeds (Selection.fits_iff.1 fits)
  exact ⟨_, later, built, rfl⟩

theorem Sound.nextChallenge_of_not_fits (h : s.Sound engine)
    (full : ¬ (s.selection engine).Fits engine.catalog s.build) (seeds : SeedStream) :
    ∃ later, s.nextChallenge engine seeds = (.error (.config .tooManyStrings), later) :=
  Challenge.ofSelection_error h.selection_of s.keys.tagMask seeds
    (Nat.lt_of_not_le (mt Selection.fits_iff.2 full))

/-- A cycle that keeps to a quota which an index can count can be built. -/
theorem Sound.fits_selection (h : s.Sound engine)
    (quota : engine.config.scheduling.secondaryQuota ≤ 255) :
    (s.selection engine).Fits engine.catalog s.build := by
  rw [Selection.fits_iff]
  exact Nat.le_trans (Challenge.length_texts_le h.selection_of)
    (Nat.le_trans h.length_secondary_le quota)

theorem Sound.fits_drawings (h : s.Sound engine)
    (quota : engine.config.scheduling.secondaryQuota ≤ 255) (calls : List Call) :
    ∀ drawing ∈ s.drawings engine calls, drawing.Fits engine.catalog s.build := by
  induction calls generalizing s with
  | nil => exact fun _ mem => absurd mem List.not_mem_nil
  | cons c rest ih =>
    intro drawing mem
    rcases List.mem_append.1 mem with here | later
    · cases draws engine s c with
      | kept none =>
        rw [none] at here
        cases here
      | next drawn =>
        rw [drawn, Option.toList_some, List.mem_singleton] at here
        rw [here]
        exact h.fits_selection quota
    · have fits := ih (h.call c) drawing later
      rwa [build_call] at fits

/-- A call sends the challenge of what it draws, if that can be built. -/
theorem Sound.issued_eq (h : s.Sound engine) (c : Call) :
    (s.issued engine c).toList.map (·.inFlight) =
      ((s.drawing? engine c).toList.filter (·.Fits engine.catalog s.build)).map
        Selection.inFlight := by
  cases c with
  | receive => rfl
  | tick now seeds =>
    by_cases due : s.Due engine now
    · rw [issued, drawing?, if_pos due, if_pos due, Option.toList_some]
      by_cases fits : (s.selection engine).Fits engine.catalog s.build
      · obtain ⟨c, later, built, ids⟩ := h.nextChallenge_of_fits fits seeds
        rw [List.filter_cons_of_pos (by simpa using fits), built, List.filter_nil]
        show [c.inFlight] = [(s.selection engine).inFlight]
        rw [ids]
      · obtain ⟨later, broken⟩ := h.nextChallenge_of_not_fits fits seeds
        rw [List.filter_cons_of_neg (by simpa using fits), broken]
        rfl
    · rw [issued, drawing?, if_neg due, if_neg due]
      rfl

/-- The challenges that are sent are the drawings that can be built. -/
theorem Sound.challenges_eq (h : s.Sound engine) (calls : List Call) :
    (s.challenges engine calls).map (·.inFlight) =
      ((s.drawings engine calls).filter (·.Fits engine.catalog s.build)).map
        Selection.inFlight := by
  induction calls generalizing s with
  | nil => rfl
  | cons c rest ih =>
    have later := ih (h.call c)
    rw [build_call] at later
    rw [challenges, drawings, List.map_append, List.filter_append, List.map_append, later,
      h.issued_eq]

end Session

/-! ### An engine that draws too much -/

namespace Catalog

/-- A catalog of 257 string checks, one more than a cycle of `Engine.crowded` draws. -/
def crowded : Catalog :=
  ⟨numberedChecks 5875 (.luaString "G") 257, pairwise_rank_numberedChecks _ _ (by decide),
    defect?_of_mem_numberedChecks (by decide) (by decide)⟩

theorem poolIds_crowded :
    crowded.poolIds 5875 .secondary = (List.range 257).map fun n => UInt16.ofNat (n + 1) := by
  have all : (crowded.definitions 5875).filter (·.kind.pool = .secondary) =
      numberedChecks 5875 (.luaString "G") 257 :=
    filter_numberedChecks 5875 (.luaString "G") 257
  rw [poolIds, all, numberedChecks, List.map_map]
  rfl

/-- Each of the checks has a string. -/
theorem not_fits_crowded {selection : Selection} (well : selection.Of crowded 5875)
    (many : 255 < selection.inFlight.length) : ¬ selection.Fits crowded 5875 := by
  have strings : ∀ c ∈ crowded.found 5875 selection.inFlight, c.kind.string?.isSome := by
    intro c hc
    obtain ⟨id, -, found⟩ := List.mem_filterMap.1 hc
    rw [(build_of_mem_numberedChecks (mem_of_get? found).1).2]
    rfl
  rw [Selection.Fits, List.countP_eq_length.2 strings, ← well.defined.length_eq]
  exact Nat.not_le.2 many

end Catalog

/-- An engine that draws up to 256 string checks a cycle. -/
def Engine.crowded : Engine where
  catalog := Catalog.crowded
  image := Engine.sample.image
  config := { scheduling := { primaryQuota := 0, secondaryQuota := 256, shuffle := false } }

namespace Scheduler

/-- Where the stocks of this engine can stand: the secondary one is empty, or it holds the check
that is drawn last. -/
structure Crowded (s : Scheduler) : Prop where
  stocked : s.Stocked Catalog.crowded 5875
  primaryQuota : s.primaryQuota = 0
  secondaryQuota : s.secondaryQuota = 256
  plain : s.shuffler = none
  stock : s.secondary = [] ∨ s.secondary = [1]

variable {s : Scheduler}

/-- The first cycle of a pass draws all checks but one, the second cycle draws that one. -/
theorem Crowded.secondary (h : s.Crowded) :
    (s.secondary = [] → (s.nextCycle Catalog.crowded 5875).1.secondary.length = 256 ∧
      (s.nextCycle Catalog.crowded 5875).2.secondary = [1]) ∧
    (s.secondary = [1] → (s.nextCycle Catalog.crowded 5875).1.secondary = [1] ∧
      (s.nextCycle Catalog.crowded 5875).2.secondary = []) := by
  obtain ⟨shuffler, plain, drawn, kept⟩ := nextCycle_of_pool Catalog.crowded 5875 s .secondary
  obtain rfl : shuffler = none := plain h.plain
  have quota : s.quota .secondary = 256 := h.secondaryQuota
  rw [Selection.fromPool, Scheduler.stock, quota] at drawn
  rw [Scheduler.stock, Scheduler.stock, quota] at kept
  constructor
  · intro empty
    rw [drawn, kept, empty, length_drawn, filled, if_pos rfl, Catalog.poolIds_crowded, draw]
    simp only [List.length_map, List.length_range, ← List.map_take, List.take_range]
    exact ⟨rfl, rfl⟩
  · intro last
    rw [drawn, kept, last, filled, if_neg (List.cons_ne_nil _ _)]
    exact ⟨rfl, rfl⟩

theorem Crowded.nextCycle_ne (h : s.Crowded) (empty : s.secondary = []) :
    (s.nextCycle Catalog.crowded 5875).2 ≠ s := by
  intro same
  have kept := (h.secondary.1 empty).2
  rw [same, empty] at kept
  cases kept

theorem Crowded.nextCycle (h : s.Crowded) : (s.nextCycle Catalog.crowded 5875).2.Crowded where
  stocked := h.stocked.nextCycle
  primaryQuota := h.primaryQuota
  secondaryQuota := h.secondaryQuota
  plain := shuffler_nextCycle h.plain
  stock := by
    rcases h.stock with empty | last
    · exact .inr (h.secondary.1 empty).2
    · exact .inl (h.secondary.2 last).2

theorem crowded_start (seed : UInt64) : (start Engine.crowded.config.scheduling seed).Crowded :=
  ⟨stocked_start _ _, rfl, rfl, rfl, .inl rfl⟩

theorem Crowded.afterCycles (h : s.Crowded) (n : Nat) :
    (s.afterCycles Catalog.crowded 5875 n).Crowded := by
  induction n with
  | zero => exact h
  | succ n ih => exact ih.nextCycle

theorem Crowded.inFlight (h : s.Crowded) :
    (s.nextCycle Catalog.crowded 5875).1.inFlight =
      (s.nextCycle Catalog.crowded 5875).1.secondary := by
  have none : (s.nextCycle Catalog.crowded 5875).1.primary = [] := by
    refine List.eq_nil_of_length_eq_zero ?_
    exact Nat.le_zero.1 (h.primaryQuota ▸ length_primary_le Catalog.crowded 5875 s)
  rw [Selection.inFlight, none, List.nil_append]

theorem Crowded.length_inFlight (h : s.Crowded) (empty : s.secondary = []) :
    (s.nextCycle Catalog.crowded 5875).1.inFlight.length = 256 := by
  rw [h.inFlight, (h.secondary.1 empty).1]

theorem Crowded.not_fits (h : s.Crowded) (empty : s.secondary = []) :
    ¬ (s.nextCycle Catalog.crowded 5875).1.Fits Catalog.crowded 5875 := by
  refine Catalog.not_fits_crowded (nextCycle_of h.stocked) ?_
  rw [h.length_inFlight empty]
  decide

/-- A cycle that can be built asks the check that is drawn last. -/
theorem Crowded.inFlight_of_fits (h : s.Crowded)
    (fits : (s.nextCycle Catalog.crowded 5875).1.Fits Catalog.crowded 5875) :
    (s.nextCycle Catalog.crowded 5875).1.inFlight = [1] := by
  rcases h.stock with empty | last
  · exact absurd fits (h.not_fits empty)
  · rw [h.inFlight, (h.secondary.2 last).1]

end Scheduler

/-! ### Challenges that fail -/

namespace Session

variable {engine : Engine} {now : Nat} {seeds : SeedStream} {s : Session}

/-- A tick fails just if a challenge is due that cannot be built. -/
theorem Sound.tick_error_iff (h : s.Sound engine) (now : Nat) (seeds : SeedStream)
    (fault : Fault) :
    (s.tick engine now seeds).1.result = .error fault ↔
      s.Due engine now ∧ ¬ (s.selection engine).Fits engine.catalog s.build ∧
        fault = .config .tooManyStrings := by
  have ticked := ticked_tick engine now seeds s
  generalize s.tick engine now seeds = result at ticked
  cases ticked with
  | idle early =>
    constructor
    · rintro ⟨⟩
    · exact fun failed => absurd failed.1 early
  | expired late =>
    constructor
    · rintro ⟨⟩
    · exact fun failed => absurd failed.1 (not_due_of_expired late)
  | challenged _ built =>
    constructor
    · rintro ⟨⟩
    · intro failed
      obtain ⟨later, broken⟩ := h.nextChallenge_of_not_fits failed.2.1 seeds
      rw [built] at broken
      cases broken
  | unbuilt due broken =>
    constructor
    · rintro ⟨⟩
      refine ⟨due, fun fits => ?_, h.nextChallenge_error broken⟩
      obtain ⟨c, later, built, -⟩ := h.nextChallenge_of_fits fits seeds
      rw [built] at broken
      cases broken
    · rintro ⟨-, -, rfl⟩
      rw [h.nextChallenge_error broken]

/-- A tick that fails has drawn the checks of the next cycle. -/
theorem session_of_tick_error {fault : Fault}
    (failed : (s.tick engine now seeds).1.result = .error fault) :
    (s.tick engine now seeds).1.session = s.drawn engine := by
  have ticked := ticked_tick engine now seeds s
  generalize s.tick engine now seeds = result at ticked failed
  cases ticked with
  | unbuilt => rfl
  | idle | expired | challenged => cases failed

/-- **A challenge that fails loses its checks, and nothing else.** Take any calls after a start.
What they draw are the first cycles of the schedule, and the stocks are those behind these cycles;
but the challenges that are sent are only those cycles whose strings an index can tell apart. As
time goes by, a call fails just if a challenge is due whose strings it cannot. Then the session is
as it was, but for the stocks, from which the cycle is drawn. If the quota is one that an index can
count, no call fails so, and all cycles are sent. -/
theorem failed_challenge_loses_checks {account : UInt32} {build : Build} {secret : Bytes}
    {start' : Nat} {seeds₀ later : SeedStream} {wire : Bytes}
    (started : start engine account build secret start' seeds₀ = (.ok (wire, s), later))
    (calls : List Call) :
    let first := Scheduler.start engine.config.scheduling seeds₀.next64.1
    let drawings := s.drawings engine calls
    let t := s.after engine calls
    drawings = (List.range drawings.length).map (first.cycle engine.catalog build) ∧
      t.scheduler = first.afterCycles engine.catalog build drawings.length ∧
      (s.challenges engine calls).map (·.inFlight) =
        (drawings.filter (·.Fits engine.catalog build)).map Selection.inFlight ∧
      (∀ now seeds fault, (t.tick engine now seeds).1.result = .error fault ↔
        t.Due engine now ∧ ¬ (t.selection engine).Fits engine.catalog build ∧
          fault = .config .tooManyStrings) ∧
      (∀ now seeds fault, (t.tick engine now seeds).1.result = .error fault →
        (t.tick engine now seeds).1.session = t.drawn engine) ∧
      (engine.config.scheduling.secondaryQuota ≤ 255 →
        (s.challenges engine calls).map (·.inFlight) = drawings.map Selection.inFlight ∧
          ∀ now seeds fault, (t.tick engine now seeds).1.result ≠ .error fault) := by
  intro first drawings t
  have sound := sound_of_start started
  have sameBuild : s.build = build := build_of_start started
  have scheduler : s.scheduler = first := (stocks_of_start started).2
  obtain ⟨cycles, stocks⟩ := drawings_eq engine s calls
  rw [scheduler, sameBuild] at cycles stocks
  have sent := sound.challenges_eq calls
  have fails := (sound.after calls).tick_error_iff
  rw [sameBuild] at sent
  rw [build_after, sameBuild] at fails
  refine ⟨cycles, stocks, sent, fails, fun now seeds fault => session_of_tick_error, ?_⟩
  intro quota
  constructor
  · have fits := sound.fits_drawings quota calls
    rw [sameBuild] at fits
    rw [sent, List.filter_eq_self.2 fun drawing mem => decide_eq_true (fits drawing mem)]
  · intro now seeds fault failed
    have fits := (sound.after calls).fits_selection quota
    rw [build_after, sameBuild] at fits
    exact ((fails now seeds fault).1 failed).2.1 fits

/-- The first challenge of the engine that draws too much is due at 30300, and fails: 256 checks are
drawn, and none is asked. -/
theorem sample_failed_challenge :
    ∃ wire s later load prove,
      start Engine.crowded 7 5875 [0x5A, 0xA5] 100 (SeedStream.ofSeed 1) = (.ok (wire, s), later) ∧
      let t := s.after Engine.crowded [.receive load 200, .receive prove 300]
      let calls := [Call.receive load 200, .receive prove 300, .tick 30300 later]
      (t.tick Engine.crowded 30300 later).1.result = .error (.config .tooManyStrings) ∧
      (t.tick Engine.crowded 30300 later).1.session = t.drawn Engine.crowded ∧
      (s.drawings Engine.crowded calls).map (·.inFlight.length) = [256] ∧
      s.challenges Engine.crowded calls = [] := by
  obtain ⟨wire, s, later, started⟩ :=
    exists_start Engine.crowded 7 5875 100 (SeedStream.ofSeed 1) (List.cons_ne_nil _ _)
  obtain ⟨waiting, stocks⟩ := stocks_of_start started
  obtain ⟨load, prove, -, admits⟩ := exists_admits Engine.crowded waiting 200 300
  let t := s.after Engine.crowded [.receive load 200, .receive prove 300]
  have due : t.Due Engine.crowded 30300 :=
    ((sound_of_start started).call _).due_of_admits admits
  have build : t.build = 5875 := (build_after ..).trans (build_of_start started)
  -- the handshake draws nothing, so this is the first cycle
  have scheduler : t.scheduler = Scheduler.start Engine.crowded.config.scheduling _ :=
    (scheduler_receive ..).trans ((scheduler_receive ..).trans stocks)
  have crowded : t.scheduler.Crowded := scheduler ▸ Scheduler.crowded_start _
  have empty : t.scheduler.secondary = [] := by
    rw [scheduler]
    rfl
  have many : (t.selection Engine.crowded).inFlight.length = 256 := by
    rw [selection, build]
    exact crowded.length_inFlight empty
  have full : ¬ (t.selection Engine.crowded).Fits Engine.crowded.catalog 5875 := by
    rw [selection, build]
    exact crowded.not_fits empty
  have drawn : s.drawings Engine.crowded
      [.receive load 200, .receive prove 300, .tick 30300 later] =
        [t.selection Engine.crowded] := by
    simp only [drawings, drawing?, Option.toList_none, List.nil_append, List.append_nil]
    exact congrArg Option.toList (if_pos due)
  obtain ⟨-, -, -, fails, loses, -⟩ :=
    failed_challenge_loses_checks started [.receive load 200, .receive prove 300]
  obtain ⟨-, -, sent, -⟩ := failed_challenge_loses_checks started
    [.receive load 200, .receive prove 300, .tick 30300 later]
  have failed := (fails 30300 later _).2 ⟨due, full, rfl⟩
  refine ⟨wire, s, later, load, prove, started, failed, loses _ _ _ failed, ?_, ?_⟩
  · rw [drawn, List.map_singleton, many]
  · rw [drawn, List.filter_cons_of_neg (by simpa using full)] at sent
    exact List.map_eq_nil_iff.1 sent

end Session

/-! ### Checks that are never asked -/

namespace Session

variable {s : Session}

/-- All that this engine ever asks is the check that is drawn last. -/
theorem Sound.inFlight_crowded (h : s.Sound Engine.crowded) (build : s.build = 5875)
    (crowded : s.scheduler.Crowded) {calls : List Call} {c : Challenge}
    (sent : c ∈ s.challenges Engine.crowded calls) : c.inFlight = [1] := by
  have asked : c.inFlight ∈ (s.challenges Engine.crowded calls).map (·.inFlight) :=
    List.mem_map.2 ⟨c, sent, rfl⟩
  rw [h.challenges_eq] at asked
  obtain ⟨drawing, mem, ids⟩ := List.mem_map.1 asked
  obtain ⟨drawn, fits⟩ := List.mem_filter.1 mem
  rw [(drawings_eq Engine.crowded s calls).1] at drawn
  obtain ⟨n, -, rfl⟩ := List.mem_map.1 drawn
  rw [build] at fits ids
  rw [← ids]
  exact (crowded.afterCycles n).inFlight_of_fits (of_decide_eq_true fits)

/-- **There are checks that are never asked.** The engine has 257 checks of this build. A challenge
is due at the first cycle and fails, and the session is not as it was, for 256 checks are drawn from
its stock; the second cycle asks the one that is left, and so on: whatever is called, no challenge
of the session asks another check. -/
theorem lost_checks :
    (Engine.crowded.catalog.poolIds 5875 .secondary).length = 257 ∧
      ∃ account secret start' seeds₀ wire s later calls now seeds fault,
        start Engine.crowded account 5875 secret start' seeds₀ = (.ok (wire, s), later) ∧
        ((s.after Engine.crowded calls).tick Engine.crowded now seeds).1.result =
          .error fault ∧
        ((s.after Engine.crowded calls).tick Engine.crowded now seeds).1.session ≠
          s.after Engine.crowded calls ∧
        ∀ calls, ∀ c ∈ s.challenges Engine.crowded calls, c.inFlight = [1] := by
  constructor
  · show (Catalog.crowded.poolIds 5875 .secondary).length = 257
    rw [Catalog.poolIds_crowded, List.length_map, List.length_range]
  obtain ⟨account, secret, start', seeds₀, wire, s, later, calls, started, due, scheduler⟩ :=
    Exchange.exists_due Engine.crowded 5875 0 (.ofSeed 1)
  have sound := sound_of_start started
  have build : s.build = 5875 := build_of_start started
  have crowded : s.scheduler.Crowded := by
    rw [(stocks_of_start started).2]
    exact Scheduler.crowded_start _
  -- no cycle was drawn before, so the stock is still empty
  have empty : (s.after Engine.crowded calls).scheduler.secondary = [] := by
    rw [scheduler]
    rfl
  have crowded' : (s.after Engine.crowded calls).scheduler.Crowded := by
    rw [scheduler]
    exact Scheduler.crowded_start _
  have full : ¬ ((s.after Engine.crowded calls).selection Engine.crowded).Fits
      Engine.crowded.catalog (s.after Engine.crowded calls).build := by
    rw [selection, build_after, build]
    exact crowded'.not_fits empty
  have failed := ((sound.after calls).tick_error_iff _ later _).2 ⟨due, full, rfl⟩
  refine ⟨account, secret, start', seeds₀, wire, s, later, calls, _, later, _, started, failed, ?_,
    fun calls c sent => sound.inFlight_crowded build crowded sent⟩
  rw [session_of_tick_error failed]
  intro same
  have stocks : ((s.after Engine.crowded calls).scheduler.nextCycle Engine.crowded.catalog
      (s.after Engine.crowded calls).build).2 = (s.after Engine.crowded calls).scheduler :=
    congrArg Session.scheduler same
  rw [build_after, build] at stocks
  exact crowded'.nextCycle_ne empty stocks

end Session

end Attest
