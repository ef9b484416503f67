import Attest.Proofs.Session.Exchange

/-!
# Which challenge an answer meets

Nothing in an answer tells which challenge it answers: a session decodes it against the checks in
flight, which are those of the newest challenge. What arrives is the answer to the oldest one
whose answer has not arrived yet.

* `Exchange.oldest_answer_meets_newest_challenge` : **these two are the same just if as many answers
  have arrived as challenges were settled**, so always, if no challenge ever expires;
* `Exchange.late_answer_misread` : they are not if a challenge expires and the next one is sent
  before the answer to the first one arrives. An honest client is punished then.
-/

namespace Attest

open Wire (ClientOpcode)

namespace Session

variable {engine : Engine} {s : Session}

/-- Only what arrives is counted as an answer. -/
theorem count_answered_le (engine : Engine) (s : Session) (calls : List Call) :
    (s.ledger engine calls).count .answered ≤ calls.countP Call.isReceive := by
  induction calls generalizing s with
  | nil => exact Nat.le_refl 0
  | cons c rest ih =>
    have later := ih (s.call engine c).session
    have here : (entryOf (s.call engine c).result).count .answered ≤ c.isReceive.toNat := by
      cases c with
      | receive payload now =>
        cases (s.call engine (.receive payload now)).result with
        | error => exact Nat.zero_le 1
        | ok reply =>
          refine Nat.le_trans (List.count_le_length ..) ?_
          exact List.length_filterMap_le Reply.entry? [reply]
      | tick now seeds =>
        rw [call, Turn.map]
        cases (s.tick engine now seeds).1.result with
        | error => exact Nat.le_refl 0
        | ok update => cases update <;> exact Nat.le_refl 0
    rw [ledger_cons, List.count_append, List.countP_cons]
    cases received : c.isReceive <;> simp [received] at here ⊢ <;> omega

/-- A session sends a challenge, gives it up and sends the next one. -/
theorem challenges_late {c₁ c₂ : Challenge} {n₁ n₂ n₃ : Nat} {later₁ later₂ : SeedStream}
    (due : s.Due engine n₁) (built₁ : s.nextChallenge engine seeds = (.ok c₁, later₁))
    (late : n₁ + engine.config.timing.timeout.toNat < n₂)
    (built₂ : (s.drawn engine).nextChallenge engine seeds = (.ok c₂, later₂))
    (next : n₂ + engine.config.timing.interval.toNat ≤ n₃) :
    s.challenges engine [.tick n₁ seeds, .tick n₂ seeds, .tick n₃ seeds] = [c₁, c₂] ∧
      (s.after engine [.tick n₁ seeds, .tick n₂ seeds, .tick n₃ seeds]).inFlight =
        some ⟨c₂.inFlight, n₃⟩ := by
  -- the session after each of the first two
  let s₁ : Session := { s.drawn engine with
    inFlight := some ⟨c₁.inFlight, n₁⟩
    cipher := (s.cipher.sealed c₁.payload).2 }
  let s₂ : Session := { s₁ with inFlight := none, waitingSince := n₂ }
  have expired : s₁.Expired engine n₂ ⟨c₁.inFlight, n₁⟩ := ⟨due.1, rfl, by simp only; omega⟩
  have due₂ : s₂.Due engine n₃ := ⟨due.1, rfl, by simp only [s₂]; omega⟩
  have first : (s.call engine (.tick n₁ seeds)).session = s₁ := call_due due built₁
  have second : (s₁.call engine (.tick n₂ seeds)).session = s₂ := call_expired expired seeds
  have third : (s₂.call engine (.tick n₃ seeds)).session = _ := call_due due₂ built₂
  have none₂ : s₁.issued engine (.tick n₂ seeds) = none := by
    rw [issued, if_neg (not_due_of_expired expired)]
  constructor
  · simp only [challenges, first, second, issued_due due built₁, none₂, issued_due due₂ built₂]
    rfl
  · rw [after, first, after, second, after, third, after]

end Session

namespace Exchange

variable {engine : Engine} {s : Session} {e : Exchange}

/-! ### Answers that are taken -/

/-- What becomes of an answer that the session takes. -/
structure Judged (engine : Engine) (s : Session) (e : Exchange) (l : Letter) (now : Nat)
    (report : CycleReport) (i : Nat) (own last : Challenge) (a : Response.Answer) : Prop where
  /-- It is the honest answer of the client to its own challenge. -/
  answers : Answers engine s.build (e.sent engine s) l i own a
  opened : (e.session engine s).opens (.receive l.wire now) = Word.message engine (.answer a)
  /-- It is the oldest one that has not arrived. -/
  oldest : i = e.heard
  newest : (e.sent engine s).getLast? = some last
  /-- It is decoded against the checks of the newest challenge. -/
  decoded : ∃ f, (e.session engine s).inFlight = some f ∧ f.ids = last.inFlight ∧
    report = (e.session engine s).verdict engine
      (Response.examine (engine.catalog.found s.build last.inFlight) (Response.frame a.covered)
        (Session.InFlight.elapsed f now)).outcome
  /-- Its own challenge is the newest one just if as many answers have arrived as challenges were
  settled. -/
  correlated : i + 1 = (e.sent engine s).length ↔
    e.heard = (s.ledger engine e.calls).count .answered + (s.ledger engine e.calls).count .expired
  /-- This is so if no challenge has expired. -/
  unexpired : (s.ledger engine e.calls).count .expired = 0 → i + 1 = (e.sent engine s).length
  /-- Then it is found clean. -/
  clean : i + 1 = (e.sent engine s).length → own = last ∧ report.penalty = none

theorem Synced.opens (h : e.Synced engine s) {l : Letter} {rest : List Letter}
    (next : e.up = l :: rest) (now : Nat) :
    (e.session engine s).opens (.receive l.wire now) = l.plain := by
  have under := h.up
  rw [next] at under
  exact under.1

/-- While a challenge is in flight, the next answer is decoded against it. -/
theorem Synced.cycle (h : e.Synced engine s) (sound : s.Sound engine) (active : s.phase = .active)
    {l : Letter} {rest : List Letter} (next : e.up = l :: rest) {a : Response.Answer}
    (plain : l.plain = Word.message engine (.answer a)) {f : InFlight}
    (flight : (e.session engine s).inFlight = some f) (now : Nat) :
    ((e.session engine s).call engine (.receive l.wire now)).result =
      .ok (.reaction (.cycle ((e.session engine s).verdict engine
        (Response.examine (engine.catalog.found s.build f.ids) (Response.frame a.covered)
          (Session.InFlight.elapsed f now)).outcome))) := by
  have build : (e.session engine s).build = s.build := Session.build_after engine s e.calls
  have said : (e.session engine s).opens (.receive l.wire now) =
      ClientOpcode.checksResult.byte :: Response.frame a.covered := (h.opens next now).trans plain
  rw [← build]
  exact (sound.after e.calls).result_checksResult (active_session active engine e) flight said

/-- An exchange has sent the challenges that were settled and the one in flight. -/
theorem length_sent (sound : s.Sound engine) (idle : s.inFlight = none) {f : InFlight}
    (flight : (e.session engine s).inFlight = some f) :
    (e.sent engine s).length = (s.ledger engine e.calls).count .answered +
      (s.ledger engine e.calls).count .expired + 1 := by
  have count := (sound.balanced_ledger e.calls).count
  have busy : (s.after engine e.calls).inFlight = some f := flight
  rw [idle, busy] at count
  rw [sent, sound.length_challenges]
  exact count

theorem Synced.judged (h : e.Synced engine s) (sound : s.Sound engine)
    (active : s.phase = .active) (idle : s.inFlight = none) {l : Letter} {rest : List Letter}
    (next : e.up = l :: rest) {now : Nat} {report : CycleReport}
    (cycle : ((e.session engine s).call engine (.receive l.wire now)).result =
      .ok (.reaction (.cycle report))) :
    ∃ i own last a, e.Judged engine s l now report i own last a := by
  obtain ⟨i, own, a, answers⟩ := h.answers l (by rw [next]; exact List.mem_cons_self)
  -- only an answer to the challenge in flight is taken
  obtain ⟨f, flight⟩ : ∃ f, (e.session engine s).inFlight = some f := by
    cases (sound.after e.calls).accounts (.receive l.wire now) with
    | kept _ silent => cases silent _ cycle
    | asked _ issued => cases issued
    | answered outstanding | expired outstanding => exact ⟨_, outstanding⟩
  obtain ⟨last, isLast, ids⟩ : ∃ c, (e.sent engine s).getLast? = some c ∧ f.ids = c.inFlight := by
    rcases sound.flight_after e.calls flight with found | ⟨-, before⟩
    · exact found
    · rw [idle] at before
      cases before
  obtain rfl : (e.session engine s).verdict engine (Response.examine
      (engine.catalog.found s.build f.ids) (Response.frame a.covered)
        (Session.InFlight.elapsed f now)).outcome = report := by
    rw [h.cycle sound active next answers.plain flight] at cycle
    cases cycle
    rfl
  have order := h.order
  rw [outstanding, next, List.filterMap_cons_some answers.about] at order
  have oldest : i = e.heard := (range_append_cons order).1
  have length := length_sent sound idle flight
  obtain ⟨bound, here⟩ := List.getElem?_eq_some_iff.1 answers.asked
  refine ⟨i, own, last, a, answers, (h.opens next now).trans answers.plain, oldest, isLast,
    ⟨f, flight, ids, by rw [ids]⟩, ?_, ?_, ?_⟩
  · omega
  · intro none
    have answered : (s.ledger engine e.calls).count .answered ≤ e.heard :=
      Session.count_answered_le engine s e.calls
    omega
  · intro newest
    have same : own = last := by
      rw [List.getLast?_eq_getElem?, ← newest, Nat.add_sub_cancel, answers.asked] at isLast
      exact Option.some.inj isLast
    subst same
    refine ⟨rfl, ?_⟩
    rw [ids, answers.honest.outcome, Session.verdict_of_honest answers.honest]

/-! ### The beginning -/

/-- The exchanges that begin as a session gets the right answer to the seed, whatever was called on
it before. -/
inductive Begins (engine : Engine) : Exchange → Session → Prop
  | admitted {account : UInt32} {build : Build} {secret : Bytes} {now : Nat}
      {seeds later : SeedStream} {wire : Bytes} {s : Session} {calls : List Call} {c : Call}
      (started : Session.start engine account build secret now seeds = (.ok (wire, s), later))
      (admits : (s.after engine calls).Admits engine ((s.after engine calls).opens c)) :
      Begins engine (admitted engine (s.after engine calls) c)
        ((s.after engine calls).call engine c).session

theorem Begins.sound (h : e.Begins engine s) : s.Sound engine := by
  obtain ⟨started, -⟩ := h
  exact ((Session.sound_of_start started).after _).call _

theorem Begins.active (h : e.Begins engine s) : s.phase = .active := by
  obtain ⟨-, admits⟩ := h
  refine (Session.phase_call_eq_active_iff ?_ _).2 admits
  rw [admits.1]
  decide

theorem Begins.idle (h : e.Begins engine s) : s.inFlight = none := by
  obtain ⟨started, admits⟩ := h
  exact ((Session.sound_of_start started).after _).idle_of_admits admits

theorem Begins.synced (h : e.Begins engine s) : e.Synced engine s := by
  obtain ⟨-, admits⟩ := h
  exact synced_admitted admits

/-- Every client can load the module and prove it. -/
theorem exists_begins (engine : Engine) (account : UInt32) (build : Build) {secret : Bytes}
    (nonempty : secret ≠ []) (now : Nat) (seeds : SeedStream) :
    ∃ e s, Begins engine e s ∧ e.calls = [] ∧ e.up = [] ∧ e.clock = now ∧
      s.waitingSince = now ∧ s.build = build ∧
      s.scheduler = Scheduler.start engine.config.scheduling seeds.next64.1 := by
  obtain ⟨wire, s, later, started⟩ := Session.exists_start engine account build now seeds nonempty
  obtain ⟨waiting, stocks⟩ := Session.stocks_of_start started
  obtain ⟨load, prove, -, admits⟩ := s.exists_admits engine waiting now now
  have admits : (s.after engine [.receive load now]).Admits engine _ := admits
  refine ⟨_, _, .admitted started admits, rfl, rfl, rfl, Session.waitingSince_of_admits admits,
    ?_, ?_⟩
  · rw [Session.build_call, Session.build_after, Session.build_of_start started]
  · exact (Session.scheduler_receive ..).trans ((Session.scheduler_receive ..).trans stocks)

/-- Every session may come to its first challenge. -/
theorem exists_due (engine : Engine) (build : Build) (now : Nat) (seeds : SeedStream) :
    ∃ account secret start seeds' wire s later calls,
      Session.start engine account build secret start seeds' = (.ok (wire, s), later) ∧
      (s.after engine calls).Due engine (now + engine.config.timing.interval.toNat) ∧
      (s.after engine calls).scheduler =
        Scheduler.start engine.config.scheduling seeds.next64.1 := by
  obtain ⟨e, t, begins, -, -, -, waiting, sameBuild, scheduler⟩ :=
    exists_begins engine 0 build (List.cons_ne_nil 0 []) now seeds
  have due : t.Due engine (now + engine.config.timing.interval.toNat) :=
    ⟨begins.active, begins.idle, by rw [waiting]; omega⟩
  obtain @⟨account, build', secret, start, seeds', later, wire, s, calls, c, started, -⟩ := begins
  have after : ((s.after engine calls).call engine c).session =
      s.after engine (calls ++ [c]) := by
    rw [Session.after_append]
    rfl
  rw [after] at due scheduler sameBuild
  obtain rfl : build' = build := by
    rw [← sameBuild, Session.build_after, Session.build_of_start started]
  exact ⟨account, secret, start, seeds', wire, s, later, calls ++ [c], started, due, scheduler⟩

/-- The client can read all that is under way to it. -/
theorem exists_read (engine : Engine) (s : Session) (e : Exchange) :
    ∃ client, Run engine s e { e with
      client
      down := []
      pending := e.pending ++ e.down.filterMap Letter.about } := by
  obtain ⟨calls, client, pending, down, up, clock⟩ := e
  induction down generalizing client pending with
  | nil =>
    refine ⟨client, ?_⟩
    rw [List.filterMap_nil, List.append_nil]
    exact .refl
  | cons l rest ih =>
    obtain ⟨client', run⟩ := ih (client.opened l.wire).2 (pending ++ l.about.toList)
    have step : Step engine s ⟨calls, client, pending, l :: rest, up, clock⟩ _ := .read rfl
    refine ⟨client', .head step ?_⟩
    rw [filterMap_about_cons, ← List.append_assoc]
    exact run

/-- The client can answer the oldest challenge that it has not answered yet. -/
theorem exists_answered {i : Nat} {more : List Nat} {c : Challenge} {a : Response.Answer}
    (first : e.pending ++ e.down.filterMap Letter.about = i :: more)
    (asked : (e.sent engine s)[i]? = some c)
    (honest : a.Honest (engine.catalog.found s.build c.inFlight)) :
    ∃ e' l, Run engine s e e' ∧ e'.calls = e.calls ∧ e'.clock = e.clock ∧ e'.up = e.up ++ [l] ∧
      l.about = some i ∧ l.plain = Word.message engine (.answer a) := by
  obtain ⟨client, run⟩ := exists_read engine s e
  exact ⟨_, _, run.tail (.answer first asked honest), rfl, rfl, rfl, rfl, rfl⟩

/-- Before anything has arrived, all challenges are outstanding. -/
theorem Synced.pending (h : e.Synced engine s) (heard : e.heard = 0) (up : e.up = []) :
    e.pending ++ e.down.filterMap Letter.about = List.range (e.sent engine s).length := by
  have order := h.order
  rw [heard, outstanding, up] at order
  exact order

/-- While a challenge is in flight, the answer to the first one may be the first to arrive. -/
theorem Begins.exists_cycle {e₀ : Exchange} (begins : e₀.Begins engine s)
    (run : Run engine s e₀ e) (heard : e.heard = 0) (up : e.up = []) {c : Challenge}
    {more : List Challenge} (sent : e.sent engine s = c :: more) {a : Response.Answer}
    (honest : a.Honest (engine.catalog.found s.build c.inFlight)) {f : InFlight}
    (flight : (e.session engine s).inFlight = some f) (now : Nat) :
    ∃ e' l, Run engine s e₀ e' ∧ e'.calls = e.calls ∧ e'.clock = e.clock ∧ e'.up = [l] ∧
      l.about = some 0 ∧
      ((e'.session engine s).call engine (.receive l.wire now)).result =
        .ok (.reaction (.cycle ((e'.session engine s).verdict engine
          (Response.examine (engine.catalog.found s.build f.ids) (Response.frame a.covered)
            (Session.InFlight.elapsed f now)).outcome))) := by
  have first := (run.synced begins.synced begins.active).pending heard up
  rw [sent, List.length_cons, List.range_succ_eq_map] at first
  have asked : (e.sent engine s)[0]? = some c := by
    rw [sent]
    rfl
  obtain ⟨e', l, run', calls, clock, up', about, plain⟩ := exists_answered first asked honest
  have whole : Run engine s e₀ e' := run.trans run'
  have next : e'.up = [l] := by rw [up', up]; rfl
  have flight' : (e'.session engine s).inFlight = some f := by
    rw [session, calls]
    exact flight
  exact ⟨e', l, whole, calls, clock, next, about, (whole.synced begins.synced begins.active).cycle
    begins.sound begins.active next plain flight' now⟩

end Exchange

/-- An engine that asks one of two memory checks at a time. -/
def Engine.pair : Engine :=
  { Engine.sample with
    catalog := {
      checks := [⟨1, 5875, .memory 0x00401000 1 [0xAA], ""⟩,
        ⟨2, 5875, .memory 0x00402000 1 [0xBB], ""⟩]
      ascending := by decide
      sound := by decide }
    config := {
      scheduling := ⟨1, 0, false⟩
      penalties := { timeoutAction := .warning } } }

namespace Exchange

/-- The session of two checks asks the second one first. -/
theorem exists_begins_pair (seeds : SeedStream) :
    ∃ e s c₁ c₂ later₁ later₂, Begins Engine.pair e s ∧ e.calls = [] ∧ e.up = [] ∧ e.clock = 300 ∧
      s.build = 5875 ∧ s.Due Engine.pair 30300 ∧
      s.nextChallenge Engine.pair seeds = (.ok c₁, later₁) ∧ c₁.inFlight = [2] ∧
      (s.drawn Engine.pair).nextChallenge Engine.pair seeds = (.ok c₂, later₂) ∧
      c₂.inFlight = [1] := by
  have quota : Engine.pair.config.scheduling.secondaryQuota ≤ 255 := by decide
  have nonempty : [0x5A, 0xA5] ≠ ([] : Bytes) := by decide
  obtain ⟨e, s, begins, calls, up, clock, since, build, scheduler⟩ :=
    exists_begins Engine.pair 7 5875 nonempty 300 (SeedStream.ofSeed 1)
  obtain ⟨c₁, later₁, built₁, ids₁⟩ := begins.sound.exists_nextChallenge quota seeds
  obtain ⟨c₂, later₂, built₂, ids₂⟩ :=
    (begins.sound.drawn begins.idle).exists_nextChallenge quota seeds
  refine ⟨e, s, c₁, c₂, later₁, later₂, begins, calls, up, clock, build, ⟨begins.active,
    begins.idle, ?_⟩, built₁, ids₁.trans ?_, built₂, ids₂.trans ?_⟩
  · rw [since]
    decide
  · rw [Session.selection, scheduler, build]
    rfl
  · rw [Session.selection, Session.drawn, scheduler, build]
    rfl

/-- The answer of an untampered client to the second check. -/
theorem honest_pair :
    (Response.Answer.untampered (Engine.pair.catalog.found 5875 [2])).Honest
      (Engine.pair.catalog.found 5875 [2]) :=
  Response.honest_untampered (by decide) (by decide)

/-- The answer of an untampered client to the second check is found wrong when it is taken for an
answer to the first one. -/
theorem outcome_pair (elapsed : UInt32) :
    (Response.examine (Engine.pair.catalog.found 5875 [1])
      (Response.frame (Response.Answer.untampered (Engine.pair.catalog.found 5875 [2])).covered)
        elapsed).outcome =
      .decoded ((Response.Answer.untampered (Engine.pair.catalog.found 5875 [2])).report
        (Engine.pair.catalog.found 5875 [1]) elapsed) := by
  have fit : Response.Fit (Engine.pair.catalog.found 5875 [1])
      (Response.Answer.untampered (Engine.pair.catalog.found 5875 [2])).entries :=
    .cons (.memory rfl) .nil
  exact Response.examine_decoded_iff.2
    ⟨_, [], ⟨fit, honest_pair.bound, (List.append_nil _).symm⟩, rfl⟩

/-! ### Every exchange -/

/-- **The oldest answer meets the newest challenge.** Let messages be under way for as long as they
like, while the client answers what it has read, in order and once each. Then it reads each
challenge as it was sent. The session takes what arrives just if a challenge is in flight, and it
takes the oldest answer that has not arrived for the answer to the newest challenge. They belong
together just if as many answers have arrived as challenges were settled, which is so as long as no
challenge expires; then the answer is found clean. -/
theorem oldest_answer_meets_newest_challenge {engine : Engine} {s : Session} {e₀ e : Exchange}
    (begins : e₀.Begins engine s) (run : Run engine s e₀ e) :
    (∀ l rest, e.down = l :: rest → (e.client.opened l.wire).1 = l.plain ∧
      ∀ i, l.about = some i → ∃ c, (e.sent engine s)[i]? = some c ∧ l.plain = c.payload) ∧
    ∀ l rest now, e.up = l :: rest →
      ((∃ report, ((e.session engine s).call engine (.receive l.wire now)).result =
          .ok (.reaction (.cycle report))) ↔ (e.session engine s).inFlight ≠ none) ∧
      ∀ report, ((e.session engine s).call engine (.receive l.wire now)).result =
          .ok (.reaction (.cycle report)) →
        ∃ i own last a, e.Judged engine s l now report i own last a := by
  have synced := run.synced begins.synced begins.active
  refine ⟨fun l rest next => ⟨?_, ?_⟩, fun l rest now next => ⟨⟨?_, fun busy => ?_⟩,
    fun report cycle => synced.judged begins.sound begins.active begins.idle next cycle⟩⟩
  · have under := synced.down
    rw [next] at under
    exact under.1
  · exact synced.asks l (by rw [next]; exact List.mem_cons_self)
  · rintro ⟨report, cycle⟩
    obtain ⟨i, own, last, a, judged⟩ :=
      synced.judged begins.sound begins.active begins.idle next cycle
    obtain ⟨f, flight, -⟩ := judged.decoded
    simp [flight]
  · obtain ⟨f, flight⟩ := Option.ne_none_iff_exists'.1 busy
    obtain ⟨i, own, a, answers⟩ := synced.answers l (by rw [next]; exact List.mem_cons_self)
    exact ⟨_, synced.cycle begins.sound begins.active next answers.plain flight now⟩

theorem sample_prompt_answer :
    ∃ e₀ s e l report, Begins Engine.pair e₀ s ∧ Run Engine.pair s e₀ e ∧
      e.up = [l] ∧ l.about = some 0 ∧
      ((e.session Engine.pair s).call Engine.pair (.receive l.wire 30400)).result =
        .ok (.reaction (.cycle report)) ∧
      report.penalty = none := by
  let seeds := SeedStream.ofSeed 2
  obtain ⟨e₀, s, c₁, c₂, later₁, later₂, begins, calls, up, clock, build, due, built, ids, -⟩ :=
    exists_begins_pair seeds
  let e₁ := e₀.called Engine.pair s (.tick 30300 seeds)
  have run₁ : Run Engine.pair s e₀ e₁ := .single (.wait (by rw [clock]; decide) seeds)
  have calls₁ : e₁.calls = [.tick 30300 seeds] := by
    simp only [e₁, called, calls, List.nil_append]
  have sent₁ : e₁.sent Engine.pair s = [c₁] := by
    simp [sent, calls₁, Session.challenges, Session.issued_due due built]
  have flight : (e₁.session Engine.pair s).inFlight = some ⟨c₁.inFlight, 30300⟩ := by
    rw [session, calls₁, Session.after, Session.call_due due built, Session.after]
  have honest := honest_pair
  rw [← ids, ← build] at honest
  obtain ⟨e, l, run, calls₂, -, next, about, cycle⟩ :=
    begins.exists_cycle run₁ (by rw [heard, calls₁]; rfl) up sent₁ honest flight 30400
  obtain ⟨-, taken⟩ := oldest_answer_meets_newest_challenge begins run
  obtain ⟨i, own, last, a, judged⟩ := (taken l [] 30400 next).2 _ cycle
  obtain rfl : i = 0 := Option.some.inj (judged.answers.about.symm.trans about)
  have same : e.sent Engine.pair s = [c₁] := by rw [sent, calls₂, ← sent, sent₁]
  exact ⟨e₀, s, e, l, _, begins, run, next, about, cycle, (judged.clean (by rw [same]; rfl)).2⟩

/-- **A late answer is taken for the answer to the next challenge.** The first challenge of the
session expires and the second one is sent before the client reads either. Its honest answer to the
first one is decoded against the check of the second one, and it is punished. -/
theorem late_answer_misread :
    ∃ e₀ s e l report, Engine.pair.config.fault? = none ∧
      Begins Engine.pair e₀ s ∧ Run Engine.pair s e₀ e ∧
      e.calls = [.tick 30300 (SeedStream.ofSeed 2), .tick 630301 (SeedStream.ofSeed 2),
        .tick 660301 (SeedStream.ofSeed 2)] ∧
      e.clock = 660301 ∧ e.up = [l] ∧ l.about = some 0 ∧
      (e.sent Engine.pair s).map (·.inFlight) = [[2], [1]] ∧
      ((e.session Engine.pair s).call Engine.pair (.receive l.wire 660302)).result =
        .ok (.reaction (.cycle report)) ∧
      report.penalty.map (·.reason) = some (.checkFailed 1) := by
  let seeds := SeedStream.ofSeed 2
  obtain ⟨e₀, s, c₁, c₂, later₁, later₂, begins, calls, up, clock, build, due, built₁, ids₁, built₂,
    ids₂⟩ := exists_begins_pair seeds
  -- nothing is read until the second challenge is sent
  let e₁ := e₀.called Engine.pair s (.tick 30300 seeds)
  let e₂ := e₁.called Engine.pair s (.tick 630301 seeds)
  let e₃ := e₂.called Engine.pair s (.tick 660301 seeds)
  have step₁ : Step Engine.pair s e₀ e₁ := .wait (by rw [clock]; decide) seeds
  have clock₁ : e₁.clock = 30300 := rfl
  have clock₂ : e₂.clock = 630301 := rfl
  have step₂ : Step Engine.pair s e₁ e₂ := .wait (by rw [clock₁]; decide) seeds
  have step₃ : Step Engine.pair s e₂ e₃ := .wait (by rw [clock₂]; decide) seeds
  have run₃ : Run Engine.pair s e₀ e₃ := .tail (.tail (.single step₁) step₂) step₃
  have calls₃ : e₃.calls = [.tick 30300 seeds, .tick 630301 seeds, .tick 660301 seeds] := by
    simp only [e₃, e₂, e₁, called, calls, List.nil_append, List.cons_append]
  have late : 30300 + Engine.pair.config.timing.timeout.toNat < 630301 := by decide
  have again : 630301 + Engine.pair.config.timing.interval.toNat ≤ 660301 := by decide
  obtain ⟨challenges, flight⟩ := Session.challenges_late due built₁ late built₂ again
  have sent₃ : e₃.sent Engine.pair s = [c₁, c₂] := by rw [sent, calls₃, challenges]
  have inFlight : (e₃.session Engine.pair s).inFlight = some ⟨c₂.inFlight, 660301⟩ := by
    rw [session, calls₃, flight]
  have honest := honest_pair
  rw [← ids₁, ← build] at honest
  obtain ⟨e, l, run, calls₄, clock₄, next, about, cycle⟩ :=
    begins.exists_cycle run₃ (by rw [heard, calls₃]; rfl) up sent₃ honest inFlight 660302
  refine ⟨e₀, s, e, l, _, by decide, begins, run, calls₄.trans calls₃, clock₄, next, about, ?_,
    cycle, ?_⟩
  · rw [sent, calls₄, calls₃, challenges, List.map_cons, List.map_singleton, ids₁, ids₂]
  · rw [build, ids₁, ids₂, outcome_pair]
    rfl

end Exchange

end Attest
