import Attest.Proofs.Session.Cadence

/-!
# Payloads and ticks at one time

A payload and a tick may come at the same time, and nothing tells which comes first. It makes no
difference, if nothing is due at that time: a payload either leaves all times of the session as they
are, or it begins a waiting at that very time, and no interval that can be used is over at its
beginning.

* `Session.Quiet` : nothing is due, which is just when a tick is idle (`Session.quiet_iff`);
* `Session.Timed.quiet` : a call at a quiet time leaves the session quiet;
* `Session.payload_and_idle_tick_commute` : **a payload and an idle tick commute**.
-/

namespace Attest

/-- An interval that can be used takes time. -/
theorem Config.interval_pos {config : Config} (accepted : config.fault? = none) :
    0 < config.timing.interval.toNat := by
  unfold fault? at accepted
  split at accepted
  case isTrue => cases accepted
  case isFalse =>
    split at accepted
    case isTrue => cases accepted
    case isFalse nonzero =>
      exact Nat.pos_of_ne_zero fun zero => nonzero (UInt32.toNat_inj.1 zero)

namespace Session

/-- Whether nothing is due. -/
structure Quiet (engine : Engine) (now : Nat) (s : Session) : Prop where
  early : ¬ s.Due engine now
  intime : ∀ f, ¬ s.Expired engine now f

variable {engine : Engine} {s : Session} {now : Nat}

theorem Quiet.tick (h : s.Quiet engine now) (seeds : SeedStream) :
    s.tick engine now seeds = (⟨.ok .idle, s, []⟩, seeds) :=
  tick_of_quiet h.early h.intime seeds

/-- A tick is idle just if nothing is due. -/
theorem quiet_iff (seeds : SeedStream) :
    s.Quiet engine now ↔ (s.tick engine now seeds).1.result = .ok .idle := by
  refine ⟨fun quiet => by rw [quiet.tick], fun idle => ?_⟩
  have ticked := ticked_tick engine now seeds s
  generalize s.tick engine now seeds = result at ticked idle
  cases ticked with
  | idle early intime => exact ⟨early, intime⟩
  | expired | challenged | unbuilt => cases idle

/-- Nothing is due for a session whose waiting has just begun. -/
theorem quiet_of_waiting (interval : 0 < engine.config.timing.interval.toNat)
    (flight : s.inFlight = none) (since : s.waitingSince = now) : s.Quiet engine now := by
  constructor
  · rintro ⟨-, -, elapsed⟩
    rw [since, Nat.sub_self] at elapsed
    omega
  · rintro f ⟨-, outstanding, -⟩
    rw [flight] at outstanding
    cases outstanding

/-- Whether something is due is told by the times and by whether the session is active. -/
theorem Quiet.congr {s' : Session} (h : s.Quiet engine now)
    (phase : s'.phase = .active ↔ s.phase = .active) (flight : s'.inFlight = s.inFlight)
    (since : s'.waitingSince = s.waitingSince) : s'.Quiet engine now := by
  constructor
  · rintro ⟨active, idle, elapsed⟩
    exact h.early ⟨phase.1 active, flight.symm.trans idle, since ▸ elapsed⟩
  · rintro f ⟨active, outstanding, late⟩
    exact h.intime f ⟨phase.1 active, flight.symm.trans outstanding, late⟩

/-- A call at a quiet time leaves the session quiet. -/
theorem Timed.quiet {c : Call} (h : s.Timed engine c)
    (interval : 0 < engine.config.timing.interval.toNat) (quiet : s.Quiet engine c.now) :
    (s.call engine c).session.Quiet engine c.now := by
  cases h with
  | kept _ phase flight since => exact quiet.congr phase flight since
  | admitted _ _ _ flight since | answered _ _ _ flight since =>
    exact quiet_of_waiting interval flight since
  | asked _ due => exact absurd due quiet.early
  | expired _ late => exact absurd late (quiet.intime _)

/-- The right answer to the seed and the answer to a challenge leave the session quiet, whatever was
due before. -/
theorem Timed.quiet_of_mark {c : Call} (h : s.Timed engine c)
    (interval : 0 < engine.config.timing.interval.toNat) {mark : Mark}
    (marked : s.mark? engine c = some mark)
    (begins : mark = .admitted ∨ mark = .entry .answered) :
    (s.call engine c).session.Quiet engine c.now := by
  cases h with
  | kept unmarked =>
    rw [unmarked] at marked
    cases marked
  | admitted _ _ _ flight since | answered _ _ _ flight since =>
    exact quiet_of_waiting interval flight since
  | asked other | expired other =>
    obtain rfl := Option.some.inj (other.symm.trans marked)
    rcases begins with other | other <;> cases other

/-- An answer that is taken is marked. -/
theorem mark?_of_cycle {payload : Bytes} {report : CycleReport}
    (taken : (s.receive engine payload now).result = .ok (.cycle report)) :
    ∃ mark, s.mark? engine (.receive payload now) = some mark ∧
      (mark = .admitted ∨ mark = .entry .answered) := by
  have result : (s.call engine (.receive payload now)).result =
      .ok (.reaction (.cycle report)) := by
    rw [call, Turn.map, taken]
    rfl
  rw [mark?, result]
  split
  · exact ⟨_, rfl, .inl rfl⟩
  · exact ⟨_, rfl, .inr rfl⟩

/-- **A payload and an idle tick commute.** Let the configuration be one that can be used, and take
any session that some calls lead to. If a tick is idle at a time, then a payload that arrives at the
same time is taken in the same way before the tick and behind it, the tick is idle before the
payload and behind it, and both orders end in the same session. Behind the right answer to the seed
and behind an answer to a challenge the tick is idle in any case. -/
theorem payload_and_idle_tick_commute (accepted : engine.config.fault? = none) {account : UInt32}
    {build : Build} {secret : Bytes} {start' : Nat} {seeds₀ later : SeedStream} {wire : Bytes}
    (started : start engine account build secret start' seeds₀ = (.ok (wire, s), later))
    (calls : List Call) (payload : Bytes) (now : Nat) (seeds : SeedStream) :
    let t := s.after engine calls
    let heard := t.receive engine payload now
    ((t.tick engine now seeds).1.result = .ok .idle →
      heard.session.tick engine now seeds = (⟨.ok .idle, heard.session, []⟩, seeds) ∧
      (t.tick engine now seeds).1.session.receive engine payload now = heard ∧
      t.after engine [.receive payload now, .tick now seeds] =
        t.after engine [.tick now seeds, .receive payload now]) ∧
    (t.Admits engine (t.opens (.receive payload now)) ∨
        (∃ report, heard.result = .ok (.cycle report)) →
      heard.session.tick engine now seeds = (⟨.ok .idle, heard.session, []⟩, seeds)) := by
  intro t heard
  have interval := Config.interval_pos accepted
  have timed : t.Timed engine (.receive payload now) :=
    ((sound_of_start started).after calls).timed (.receive payload now)
  constructor
  · intro idle
    have quiet : t.Quiet engine now := (quiet_iff seeds).2 idle
    have still : heard.session.Quiet engine now := timed.quiet interval quiet
    refine ⟨still.tick seeds, by rw [quiet.tick], ?_⟩
    simp only [after, call, Turn.map_session, quiet.tick]
    exact congrArg (fun turn => turn.1.session) (still.tick seeds)
  · intro begins
    have marked : ∃ mark, t.mark? engine (.receive payload now) = some mark ∧
        (mark = .admitted ∨ mark = .entry .answered) := by
      rcases begins with admits | ⟨report, taken⟩
      · exact ⟨.admitted, if_pos admits, .inl rfl⟩
      · exact mark?_of_cycle taken
    obtain ⟨mark, marked, begins⟩ := marked
    have still : heard.session.Quiet engine now := timed.quiet_of_mark interval marked begins
    exact still.tick seeds

/-- The right answer to the seed arrives together with a tick. -/
theorem sample_simultaneity :
    ∃ wire s later load prove,
      start Engine.sample 7 5875 [0x5A, 0xA5] 100 (SeedStream.ofSeed 1) = (.ok (wire, s), later) ∧
      (s.after Engine.sample [.receive load 200, .receive prove 300]).phase = .active ∧
      s.after Engine.sample [.receive load 200, .receive prove 300, .tick 300 later] =
        s.after Engine.sample [.receive load 200, .tick 300 later, .receive prove 300] ∧
      s.after Engine.sample [.receive load 200, .receive prove 300, .tick 300 later] =
        s.after Engine.sample [.receive load 200, .receive prove 300] := by
  obtain ⟨wire, s, later, started⟩ :=
    exists_start Engine.sample 7 5875 100 (SeedStream.ofSeed 1) (List.cons_ne_nil 0x5A [0xA5])
  obtain ⟨load, prove, -, admits⟩ :=
    s.exists_admits Engine.sample (stocks_of_start started).1 200 300
  let t := s.after Engine.sample [.receive load 200]
  have quiet : t.Quiet Engine.sample 300 := by
    have inactive : t.phase ≠ .active := by
      rw [show t.phase = .awaitingHash from admits.1]
      decide
    exact ⟨fun due => inactive due.1, fun _ late => inactive late.1⟩
  obtain ⟨commute, begins⟩ := payload_and_idle_tick_commute (by decide) started
    [.receive load 200] prove 300 later
  obtain ⟨-, -, same⟩ := commute ((quiet_iff later).1 quiet)
  have still := begins (.inl admits)
  refine ⟨wire, s, later, load, prove, started, active_of_admits admits, same, ?_⟩
  exact congrArg (fun turn => turn.1.session) still

end Session

end Attest
