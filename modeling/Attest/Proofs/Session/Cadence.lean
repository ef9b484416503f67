import Attest.Proofs.Session.Phases
import Attest.Proofs.Session.Refusal

/-!
# Cadence

The times that a session waits from are those of four events: the right answer to the seed, and the
sending, the answering and the expiry of a challenge. `Session.stamps` lists these events of a row
of calls with their times; a session keeps the time of the last one and of no other
(`Session.Clocked`).

* `Session.Timed` : all that a call can do to the times of a session, in one relation;
* `Session.Sound.timely` : if the clock never goes back, **no challenge comes before the interval is
  over and none expires before the timeout is**;
* `Session.Clocked.onTime` : **from the interval on every call attempts a challenge, and after the
  timeout the next call gives it up**, whatever the clock says and whatever was refused meanwhile.
-/

namespace Attest

open Wire (ClientOpcode)

/-! ### Stamps -/

/-- What times are measured from. -/
inductive Mark where
  /-- The right answer to the seed. -/
  | admitted
  /-- A challenge was sent, answered or given up. -/
  | entry (entry : LedgerEntry)
  deriving DecidableEq, Repr

/-- A mark and its time, in milliseconds. -/
structure Stamp where
  mark : Mark
  time : Nat
  deriving DecidableEq, Repr

/-- Whether a stamp may come after the last one, if there is one. -/
inductive Follows (engine : Engine) : Option Stamp → Stamp → Prop
  | admitted {t : Nat} : Follows engine none ⟨.admitted, t⟩
  /-- A challenge is sent an interval after the answer to the seed or a settlement. -/
  | asked {last : Stamp} {t : Nat} (settled : last.mark ≠ .entry .asked)
      (pause : last.time + engine.config.timing.interval.toNat ≤ t) :
      Follows engine (some last) ⟨.entry .asked, t⟩
  | answered {last : Stamp} {t : Nat} (asked : last.mark = .entry .asked) (later : last.time ≤ t) :
      Follows engine (some last) ⟨.entry .answered, t⟩
  /-- It expires more than a timeout after it was sent. -/
  | expired {last : Stamp} {t : Nat} (asked : last.mark = .entry .asked)
      (late : last.time + engine.config.timing.timeout.toNat < t) :
      Follows engine (some last) ⟨.entry .expired, t⟩

/-- Whether each stamp of a row may come after the one before it, or after the last one for the
first of the row. -/
inductive Timely (engine : Engine) : Option Stamp → List Stamp → Prop
  | nil {last : Option Stamp} : Timely engine last []
  | cons {last : Option Stamp} {m : Stamp} {rest : List Stamp} (first : Follows engine last m)
      (later : Timely engine (some m) rest) : Timely engine last (m :: rest)

namespace Session

/-- The mark that a call makes, if it makes one. -/
def mark? (engine : Engine) (s : Session) (c : Call) : Option Mark :=
  if s.Admits engine (s.opens c) then some .admitted
  else (s.call engine c).result.toOption.bind fun reply => reply.entry?.map .entry

/-- The stamp of a call, if it makes a mark. -/
def stamp? (engine : Engine) (s : Session) (c : Call) : Option Stamp :=
  (s.mark? engine c).map (⟨·, c.now⟩)

/-- The stamps of a row of calls, in order. -/
def stamps (engine : Engine) (s : Session) : List Call → List Stamp
  | [] => []
  | c :: rest => (s.stamp? engine c).toList ++ stamps engine (s.call engine c).session rest

theorem stamps_append (engine : Engine) (s : Session) (a b : List Call) :
    s.stamps engine (a ++ b) = s.stamps engine a ++ (s.after engine a).stamps engine b := by
  induction a generalizing s with
  | nil => rfl
  | cons c rest ih => rw [List.cons_append, stamps, stamps, ih, List.append_assoc, Session.after]

/-! ### Calls -/

/-- What a call does to the times of a session. -/
inductive Timed (engine : Engine) (s : Session) (c : Call) : Prop
  /-- Nothing. -/
  | kept (unmarked : s.mark? engine c = none)
      (phase : (s.call engine c).session.phase = .active ↔ s.phase = .active)
      (flight : (s.call engine c).session.inFlight = s.inFlight)
      (since : (s.call engine c).session.waitingSince = s.waitingSince)
  /-- It begins the waiting for the first challenge. -/
  | admitted (marked : s.mark? engine c = some .admitted) (before : s.phase ≠ .active)
      (active : (s.call engine c).session.phase = .active)
      (flight : (s.call engine c).session.inFlight = none)
      (since : (s.call engine c).session.waitingSince = c.now)
  /-- When a challenge is due, it sends one. -/
  | asked {ids : List CheckId} (marked : s.mark? engine c = some (.entry .asked))
      (due : s.Due engine c.now) (active : (s.call engine c).session.phase = .active)
      (flight : (s.call engine c).session.inFlight = some ⟨ids, c.now⟩)
  /-- It is the answer to the one in flight. -/
  | answered {f : InFlight} (marked : s.mark? engine c = some (.entry .answered))
      (outstanding : s.inFlight = some f) (active : (s.call engine c).session.phase = .active)
      (flight : (s.call engine c).session.inFlight = none)
      (since : (s.call engine c).session.waitingSince = c.now)
  /-- The one in flight is given up. -/
  | expired {f : InFlight} (marked : s.mark? engine c = some (.entry .expired))
      (late : s.Expired engine c.now f) (active : (s.call engine c).session.phase = .active)
      (flight : (s.call engine c).session.inFlight = none)
      (since : (s.call engine c).session.waitingSince = c.now)

variable {engine : Engine} {s : Session}

/-- A call that does not make the session active is marked with its entry. -/
theorem mark?_of_not_activated {c : Call}
    (kept : (s.call engine c).session.phase = .active → s.phase = .active) :
    s.mark? engine c =
      (s.call engine c).result.toOption.bind fun reply => reply.entry?.map .entry := by
  refine if_neg fun admits => ?_
  have waiting : s.phase ≠ .active := by rw [admits.1]; decide
  exact waiting (kept ((phase_call_eq_active_iff waiting c).2 admits))

/-- A call that answers nothing of note keeps all times. -/
theorem timed_kept {c : Call} {turn : Turn Reply} (called : s.call engine c = turn)
    (silent : (turn.result.toOption.bind Reply.entry?) = none)
    (phase : turn.session.phase = .active ↔ s.phase = .active)
    (flight : turn.session.inFlight = s.inFlight)
    (since : turn.session.waitingSince = s.waitingSince) : s.Timed engine c := by
  subst called
  refine .kept ?_ phase flight since
  rw [mark?_of_not_activated phase.1]
  cases result : (s.call engine c).result with
  | error fault => rfl
  | ok reply =>
    have : reply.entry? = none := by simpa [result, Except.toOption] using silent
    simp [Except.toOption, this]

theorem mark?_of_entry {c : Call} {turn : Turn Reply} (called : s.call engine c = turn)
    (active : s.phase = .active) {reply : Reply} (answer : turn.result = .ok reply)
    {entry : LedgerEntry} (noted : reply.entry? = some entry) :
    s.mark? engine c = some (.entry entry) := by
  rw [mark?_of_not_activated fun _ => active, called, answer]
  simp [Except.toOption, noted]

theorem Sound.timed_receive (h : s.Sound engine) (payload : Bytes) (now : Nat) :
    s.Timed engine (.receive payload now) := by
  have received := received_receive engine payload now s
  generalize turn : s.receive engine payload now = t at received
  have called : s.call engine (.receive payload now) = t.map .reaction := by
    rw [Session.call, turn]
  generalize opened : (s.cipher.opened payload).1 = message at received
  cases received with
  | empty | unknown | refused => exact timed_kept called rfl Iff.rfl rfl rfl
  | missing =>
    rw [sending_eq] at called
    exact timed_kept called rfl Iff.rfl rfl rfl
  | loaded waiting =>
    rw [sending_eq] at called
    have before : s.phase = .awaitingModule := waiting
    exact timed_kept called rfl (by simp [Turn.map, before]) rfl rfl
  | failed waiting =>
    rw [sending_eq] at called
    have before : s.phase = .awaitingModule ∨ s.phase = .awaitingHash := waiting
    exact timed_kept called rfl (by rcases before with h | h <;> simp [Turn.map, h]) rfl rfl
  | accepted waiting right =>
    rw [sending_eq] at called
    have before : s.phase ≠ .active := by
      rw [show s.phase = .awaitingHash from waiting]
      decide
    have admits : s.Admits engine (s.opens (.receive payload now)) := by
      rw [show s.opens (.receive payload now) = _ from opened]
      exact admits_hashResult_iff.2 ⟨waiting, right⟩
    exact .admitted (if_pos admits) before (by rw [called]; rfl)
      (by rw [called]; exact h.inFlight_eq_none before) (by rw [called]; rfl)
  | rejected waiting =>
    have before : s.phase = .awaitingHash := waiting
    exact timed_kept called rfl (by simp [Turn.map, before]) rfl rfl
  | answered active flight =>
    exact .answered (mark?_of_entry called active rfl rfl) flight (by rw [called]; exact active)
      (by rw [called]; rfl) (by rw [called]; rfl)
  | desynced active flight lost =>
    -- the checks in flight are those of the catalog, so this does not happen
    rw [(h.hearing payload).validate_ok flight] at lost
    cases lost

theorem timed_tick (engine : Engine) (s : Session) (now : Nat) (seeds : SeedStream) :
    s.Timed engine (.tick now seeds) := by
  have ticked := ticked_tick engine now seeds s
  generalize turn : s.tick engine now seeds = result at ticked
  have called : s.call engine (.tick now seeds) = result.1.map .update := by
    rw [Session.call, turn]
  cases ticked with
  | idle => exact timed_kept called rfl Iff.rfl rfl rfl
  | expired late =>
    exact .expired (mark?_of_entry called late.1 rfl rfl) late (by rw [called]; exact late.1)
      (by rw [called]; rfl) (by rw [called]; rfl)
  | challenged due built =>
    exact .asked (mark?_of_entry called due.1 rfl rfl) due (by rw [called]; exact due.1)
      (by rw [called]; rfl)
  | unbuilt due => exact timed_kept called rfl Iff.rfl rfl rfl

/-- **All that a call can do to the times of a session.** -/
theorem Sound.timed (h : s.Sound engine) (c : Call) : s.Timed engine c := by
  cases c with
  | receive payload now => exact h.timed_receive payload now
  | tick now seeds => exact timed_tick engine s now seeds

/-! ### The last stamp -/

/-- Whether a session waits from this stamp on, if there is one. -/
inductive Clocked (s : Session) : Option Stamp → Prop
  /-- It is not active and waits for nothing. -/
  | fresh (inactive : s.phase ≠ .active) (idle : s.inFlight = none) : Clocked s none
  /-- It waits for the next challenge. -/
  | pausing {mark : Mark} (active : s.phase = .active) (idle : s.inFlight = none)
      (settled : mark ≠ .entry .asked) : Clocked s (some ⟨mark, s.waitingSince⟩)
  /-- It waits for the answer to the challenge in flight. -/
  | asking {f : InFlight} (active : s.phase = .active) (flight : s.inFlight = some f) :
      Clocked s (some ⟨.entry .asked, f.sentAt⟩)

variable {c : Call} {last : Option Stamp}

theorem stamp?_of_mark? {mark : Mark} (marked : s.mark? engine c = some mark) :
    s.stamp? engine c = some ⟨mark, c.now⟩ := by
  rw [stamp?, marked]
  rfl

/-- A session that was clocked is so after a call, from the stamp of the call if it has one. -/
theorem Timed.clocked (h : s.Timed engine c) (clocked : s.Clocked last) :
    (s.call engine c).session.Clocked ((s.stamp? engine c).or last) := by
  cases h with
  | kept unmarked phase flight since =>
    rw [stamp?, unmarked, Option.map_none, Option.none_or]
    cases clocked with
    | fresh inactive idle => exact .fresh (phase.not.2 inactive) (flight.trans idle)
    | pausing active idle settled =>
      rw [← since]
      exact .pausing (phase.2 active) (flight.trans idle) settled
    | asking active outstanding => exact .asking (phase.2 active) (flight.trans outstanding)
  | admitted marked _ active flight since | answered marked _ active flight since
  | expired marked _ active flight since =>
    rw [stamp?_of_mark? marked, Option.some_or, ← since]
    exact .pausing active flight (by simp)
  | asked marked _ active flight =>
    rw [stamp?_of_mark? marked, Option.some_or]
    exact .asking active flight

/-- The stamp of a call that is not made before the last stamp may come after it. -/
theorem Timed.follows (h : s.Timed engine c) (clocked : s.Clocked last)
    (forward : ∀ m ∈ last, m.time ≤ c.now) {m : Stamp} (stamped : s.stamp? engine c = some m) :
    Follows engine last m := by
  cases h with
  | kept unmarked =>
    rw [stamp?, unmarked] at stamped
    cases stamped
  | admitted marked before =>
    rw [stamp?_of_mark? marked] at stamped
    cases stamped
    cases clocked with
    | fresh => exact .admitted
    | pausing active | asking active => exact absurd active before
  | asked marked due =>
    rw [stamp?_of_mark? marked] at stamped
    cases stamped
    obtain ⟨active, idle, elapsed⟩ := due
    cases clocked with
    | fresh inactive => exact absurd active inactive
    | pausing _ _ settled =>
      have since := forward _ rfl
      refine .asked settled ?_
      -- the clock has not gone back, so what has elapsed is not cut off at zero
      simp only at since ⊢
      omega
    | asking _ flight => simp [idle] at flight
  | answered marked outstanding =>
    rw [stamp?_of_mark? marked] at stamped
    cases stamped
    cases clocked with
    | fresh _ idle | pausing _ idle => simp [idle] at outstanding
    | asking => exact .answered rfl (forward _ rfl)
  | expired marked late =>
    rw [stamp?_of_mark? marked] at stamped
    cases stamped
    obtain ⟨-, outstanding, elapsed⟩ := late
    cases clocked with
    | fresh _ idle | pausing _ idle => simp [idle] at outstanding
    | asking _ flight =>
      obtain rfl := Option.some.inj (flight.symm.trans outstanding)
      refine .expired rfl ?_
      simp only
      omega

theorem Sound.clocked_after (h : s.Sound engine) (clocked : s.Clocked last) (calls : List Call) :
    (s.after engine calls).Clocked ((s.stamps engine calls).getLast?.or last) := by
  induction calls generalizing s last with
  | nil => exact clocked
  | cons c rest ih =>
    have later := ih (h.call c) ((h.timed c).clocked clocked)
    rw [Session.after, stamps, List.getLast?_append, Option.or_assoc]
    cases stamped : s.stamp? engine c <;> simpa [stamped] using later

/-- If the clock never goes back, the stamps of a run come in time. -/
theorem Sound.timely (h : s.Sound engine) (clocked : s.Clocked last) {calls : List Call}
    (forward : calls.Pairwise fun a b => a.now ≤ b.now)
    (since : ∀ m ∈ last, ∀ c ∈ calls, m.time ≤ c.now) :
    Timely engine last (s.stamps engine calls) := by
  induction calls generalizing s last with
  | nil => exact .nil
  | cons c rest ih =>
    obtain ⟨first, forward⟩ := List.pairwise_cons.1 forward
    have timed := h.timed c
    have later := ih (h.call c) (timed.clocked clocked) forward
    rw [stamps]
    cases stamped : s.stamp? engine c with
    | none =>
      -- the last stamp stays the last one, and no later call is before it
      rw [stamped, Option.none_or] at later
      exact later fun m hm c' hc => since m hm c' (List.mem_cons_of_mem _ hc)
    | some m =>
      rw [stamped, Option.some_or] at later
      have follows := timed.follows clocked (fun m hm => since m hm c List.mem_cons_self) stamped
      refine .cons follows (later ?_)
      obtain ⟨mark, -, rfl⟩ := Option.map_eq_some_iff.1 stamped
      rintro _ ⟨⟩ c' hc
      exact first c' hc

/-! ### On time -/

/-- A challenge that is due is sent, or has too many strings. -/
theorem Sound.tick_of_due (h : s.Sound engine) {now : Nat} (due : s.Due engine now)
    (seeds : SeedStream) :
    (∃ wire, (s.tick engine now seeds).1.result = .ok (.challenge wire)) ∨
      255 < engine.config.scheduling.secondaryQuota ∧
        (s.tick engine now seeds).1.result = .error (.config .tooManyStrings) := by
  by_cases quota : engine.config.scheduling.secondaryQuota ≤ 255
  · obtain ⟨update, result, sent⟩ := h.tick_ok quota now seeds
    obtain ⟨wire, rfl⟩ := sent.2 due
    exact .inl ⟨wire, result⟩
  · have ticked := ticked_tick engine now seeds s
    generalize s.tick engine now seeds = result at ticked
    cases ticked with
    | idle quiet => exact absurd due quiet
    | expired late => exact absurd due (not_due_of_expired late)
    | challenged => exact .inl ⟨_, rfl⟩
    | unbuilt _ broken =>
      obtain rfl := h.nextChallenge_error broken
      exact .inr ⟨Nat.lt_of_not_le quota, rfl⟩

/-- Whether a session keeps the times that count from its last stamp. -/
structure OnTime (engine : Engine) (s : Session) (last : Option Stamp) : Prop where
  /-- While nothing is in flight, a challenge is attempted from the interval after the last stamp
  on; it is sent, unless the quota allows for more strings than an index can count. -/
  attempts : s.phase = .active → s.inFlight = none →
    ∃ m, last = some m ∧ m.mark ≠ .entry .asked ∧
      ∀ now seeds, m.time + engine.config.timing.interval.toNat ≤ now →
        s.tick engine now seeds =
          ((s.challenge engine now seeds).1.map .challenge, (s.challenge engine now seeds).2) ∧
        ((∃ wire, (s.tick engine now seeds).1.result = .ok (.challenge wire)) ∨
          255 < engine.config.scheduling.secondaryQuota ∧
            (s.tick engine now seeds).1.result = .error (.config .tooManyStrings))
  /-- A challenge in flight is given up more than a timeout after its stamp. -/
  expires : s.inFlight ≠ none →
    ∃ m, last = some m ∧ m.mark = .entry .asked ∧
      ∀ now seeds, m.time + engine.config.timing.timeout.toNat < now →
        (s.tick engine now seeds).1.result = .ok (.timedOut
          (Penalty.decide engine.config.penalties s.account .responseTimeout none))
  /-- A payload that is refused makes no mark and touches the receiving cipher alone. -/
  refuses : ∀ payload now fault, (s.receive engine payload now).result = .error fault →
    s.mark? engine (.receive payload now) = none ∧
      (s.receive engine payload now).session =
        { s with cipher.receive := s.cipher.receive.advance payload.length }
  /-- No call without a mark moves a time. -/
  keeps : ∀ c, s.mark? engine c = none →
    (s.call engine c).session.inFlight = s.inFlight ∧
      (s.call engine c).session.waitingSince = s.waitingSince

theorem Clocked.onTime (clocked : s.Clocked last) (sound : s.Sound engine) :
    s.OnTime engine last where
  attempts active idle := by
    cases clocked with
    | fresh inactive => exact absurd active inactive
    | asking _ flight => simp [idle] at flight
    | pausing _ _ settled =>
      refine ⟨_, rfl, settled, fun now seeds pause => ?_⟩
      have due : s.Due engine now := ⟨active, idle, Nat.le_sub_of_add_le' pause⟩
      exact ⟨Session.tick_of_due due seeds, sound.tick_of_due due seeds⟩
  expires flight := by
    cases clocked with
    | fresh _ idle | pausing _ idle => exact absurd idle flight
    | @asking f active flight =>
      refine ⟨_, rfl, rfl, fun now seeds late => ?_⟩
      have expired : s.Expired engine now f := ⟨active, flight, Nat.lt_sub_of_add_lt (by
        simpa [Nat.add_comm] using late)⟩
      rw [tick_of_expired expired]
      rfl
  refuses payload now fault failed := by
    have moved := sound.session_of_refused failed
    have phase : (s.call engine (.receive payload now)).session.phase = s.phase := by
      rw [call, Turn.map_session, moved]
    refine ⟨?_, moved⟩
    rw [mark?_of_not_activated fun active => phase.symm.trans active, call, Turn.map, failed]
    rfl
  keeps c unmarked := by
    cases sound.timed c with
    | kept _ _ flight since => exact ⟨flight, since⟩
    | admitted marked | asked marked | answered marked | expired marked =>
      rw [marked] at unmarked
      cases unmarked

/-! ### Every run -/

/-- The stamp of a client that loads the module and proves it. -/
theorem exists_handshake (engine : Engine) (waiting : s.phase = .awaitingModule) (t₁ t₂ : Nat) :
    ∃ load prove, s.stamps engine [.receive load t₁, .receive prove t₂] = [⟨.admitted, t₂⟩] ∧
      (s.call engine (.receive load t₁)).session.Admits engine
        ((s.call engine (.receive load t₁)).session.opens (.receive prove t₂)) := by
  obtain ⟨load, prove, loaded, admits⟩ := s.exists_admits engine waiting t₁ t₂
  have quiet : ¬ s.Admits engine (s.opens (.receive load t₁)) := by
    simp [Admits, waiting]
  have first : s.stamp? engine (.receive load t₁) = none := by
    rw [stamp?, mark?, if_neg quiet, call_receive _ loaded,
      handle_moduleOk (s := s.hearing load) waiting, sending_eq]
    rfl
  have second := stamp?_of_mark? (c := .receive prove t₂) (if_pos admits)
  refine ⟨load, prove, ?_, admits⟩
  rw [stamps, stamps, stamps, first, second]
  rfl

/-- **Deadlines are kept.** Whatever is called after a start, if the clock never goes back, the
first challenge is sent an interval or more after the right answer to the seed, each further one an
interval or more after the settlement of the one before, and a challenge expires more than a timeout
after it was sent. Whatever the clock says, the session attempts a challenge and gives one up as
soon as it is called from there on, and no payload that is refused changes when that is. -/
theorem deadlines_kept {engine : Engine} {account : UInt32} {build : Build} {secret : Bytes}
    {now : Nat} {seeds later : SeedStream} {wire : Bytes} {s : Session}
    (started : start engine account build secret now seeds = (.ok (wire, s), later))
    (calls : List Call) :
    ((calls.Pairwise fun a b => a.now ≤ b.now) → Timely engine none (s.stamps engine calls)) ∧
      (s.after engine calls).OnTime engine (s.stamps engine calls).getLast? := by
  have sound := sound_of_start started
  have fresh : s.Clocked none := by
    obtain ⟨keys, -, -, rfl⟩ := start_eq_ok started
    exact .fresh nofun rfl
  refine ⟨fun forward => sound.timely fresh forward nofun, ?_⟩
  have clocked := sound.clocked_after fresh calls
  rw [Option.or_none] at clocked
  exact clocked.onTime (sound.after calls)

/-- The first challenge of a session that becomes active at 300 is sent at 30300, and expires if it
is still unanswered at 630301. -/
theorem sample_deadlines :
    ∃ wire s later calls,
      start Engine.sample 7 5875 [0x5A, 0xA5] 100 (SeedStream.ofSeed 1) = (.ok (wire, s), later) ∧
      calls.map Call.now = [200, 300, 30300] ∧
      s.stamps Engine.sample calls = [⟨.admitted, 300⟩, ⟨.entry .asked, 30300⟩] ∧
      Timely Engine.sample none (s.stamps Engine.sample calls) ∧
      ∃ p, ((s.after Engine.sample calls).tick Engine.sample 630301
          (SeedStream.ofSeed 3)).1.result = .ok (.timedOut p) := by
  obtain ⟨wire, s, later, started⟩ :=
    exists_start Engine.sample 7 5875 100 (SeedStream.ofSeed 1) (List.cons_ne_nil 0x5A [0xA5])
  have waiting : s.phase = .awaitingModule := by
    obtain ⟨keys, -, -, rfl⟩ := start_eq_ok started
    rfl
  obtain ⟨load, prove, stamped, admits⟩ := s.exists_handshake Engine.sample waiting 200 300
  let handshake : List Call := [.receive load 200, .receive prove 300]
  let ask : Call := .tick 30300 (SeedStream.ofSeed 2)
  let t := s.after Engine.sample handshake
  -- the session is active then, and its last stamp is that of the proof
  have active : t.phase = .active := active_of_admits admits
  have idle : t.inFlight = none := ((sound_of_start started).call _).idle_of_admits admits
  obtain ⟨-, onTime⟩ := deadlines_kept started handshake
  rw [stamped] at onTime
  obtain ⟨_, ⟨⟩, -, attempts⟩ := onTime.attempts active idle
  obtain ⟨-, ⟨challenge, sent⟩ | ⟨many, -⟩⟩ :=
    attempts 30300 (SeedStream.ofSeed 2) (by decide)
  · have result : (t.call Engine.sample ask).result = .ok (.update (.challenge challenge)) := by
      rw [call, Turn.map]
      exact congrArg (Except.map Reply.update) sent
    have asked : s.stamps Engine.sample (handshake ++ [ask]) =
        [⟨.admitted, 300⟩, ⟨.entry .asked, 30300⟩] := by
      rw [stamps_append, stamped, stamps, stamp?_of_mark? (mark?_of_entry rfl active result rfl)]
      rfl
    -- so the next one is that of the challenge
    obtain ⟨timely, onTime⟩ := deadlines_kept started (handshake ++ [ask])
    rw [asked] at onTime
    have flight : (t.call Engine.sample ask).session.inFlight ≠ none := by
      intro idle
      obtain ⟨_, ⟨⟩, settled, -⟩ :=
        onTime.attempts ((phase_call_of_final (.inl active) _).trans active) idle
      exact settled rfl
    obtain ⟨_, ⟨⟩, -, expires⟩ := onTime.expires flight
    exact ⟨wire, s, later, _, started, rfl, asked, timely (by simp [Call.now, handshake, ask]),
      _, expires _ _ (by decide)⟩
  · exact absurd many (by decide)

end Session

end Attest
