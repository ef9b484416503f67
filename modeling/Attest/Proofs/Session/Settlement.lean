import Attest.Proofs.Session.Invariant
import Attest.Proofs.Session.Phases

/-!
# Challenges are settled once

A challenge is settled when it is answered or expires. The entries of a session's ledger
(`Session.ledger`) are its challenges and their settlements, in the order of the replies.

* `Session.Sound.accounts` : all that a call can do to the challenge in flight, in one relation;
* `Session.Sound.balanced_ledger` : in the ledger of every run challenges and settlements take
  turns;
* `Session.challenges_settled_once` : **every challenge is settled at most once, and before the next
  one is sent**, whatever the client hands in and whatever the clock says.
-/

namespace Attest

/-! ### Ledgers -/

/-- An entry of a ledger. -/
inductive LedgerEntry where
  /-- A challenge was sent. -/
  | asked
  /-- A challenge was answered. -/
  | answered
  /-- A challenge expired. -/
  | expired
  deriving DecidableEq, Repr

/-- The entry that a reply makes, if it makes one. -/
def Reply.entry? : Reply → Option LedgerEntry
  | update (.challenge _) => some .asked
  | reaction (.cycle _) => some .answered
  | update (.timedOut _) => some .expired
  | _ => none

/-- Whether in a ledger challenges and settlements take turns, given whether a challenge is open in
front of it and behind it. -/
inductive Balanced : Bool → List LedgerEntry → Bool → Prop
  | nil {b : Bool} : Balanced b [] b
  | asked {rest : List LedgerEntry} {b : Bool} (h : Balanced true rest b) :
      Balanced false (.asked :: rest) b
  | answered {rest : List LedgerEntry} {b : Bool} (h : Balanced false rest b) :
      Balanced true (.answered :: rest) b
  | expired {rest : List LedgerEntry} {b : Bool} (h : Balanced false rest b) :
      Balanced true (.expired :: rest) b

/-- In a balanced ledger there are as many challenges as settlements, but for those that are open
in front of it and behind it. -/
theorem Balanced.count {a b : Bool} {ledger : List LedgerEntry} (h : Balanced a ledger b) :
    ledger.count .asked + a.toNat = ledger.count .answered + ledger.count .expired + b.toNat := by
  induction h with
  | nil => simp
  | asked _ ih | answered _ ih | expired _ ih =>
    simp only [List.count_cons, Bool.toNat_true, Bool.toNat_false] at ih ⊢
    simp
    omega

namespace Session

/-- The ledger of a row of calls. -/
def ledger (engine : Engine) (s : Session) (calls : List Call) : List LedgerEntry :=
  (s.replies engine calls).filterMap Reply.entry?

/-- The challenge that a call sends, if it sends one. -/
def issued (engine : Engine) (s : Session) : Call → Option Challenge
  | .receive .. => none
  | .tick now seeds =>
    if s.Due engine now then (s.nextChallenge engine seeds).1.toOption else none

/-- The challenges that a row of calls sends, in order. -/
def challenges (engine : Engine) (s : Session) : List Call → List Challenge
  | [] => []
  | c :: rest =>
    (s.issued engine c).toList ++ challenges engine (s.call engine c).session rest

theorem issued_due {engine : Engine} {now : Nat} {seeds later : SeedStream} {s : Session}
    {c : Challenge} (due : s.Due engine now)
    (built : s.nextChallenge engine seeds = (.ok c, later)) :
    s.issued engine (.tick now seeds) = some c := by
  rw [issued, if_pos due, built]
  rfl

theorem exists_of_issued {engine : Engine} {s : Session} {call : Call} {c : Challenge}
    (issued : s.issued engine call = some c) :
    ∃ now seeds later, call = .tick now seeds ∧ s.Due engine now ∧
      s.nextChallenge engine seeds = (.ok c, later) := by
  cases call with
  | receive => cases issued
  | tick now seeds =>
    rw [Session.issued] at issued
    split at issued
    case isTrue due =>
      rcases built : s.nextChallenge engine seeds with ⟨fault | c', later⟩
      · rw [built] at issued
        cases issued
      · rw [built] at issued
        cases issued
        exact ⟨now, seeds, later, rfl, due, built⟩
    case isFalse => cases issued

/-! ### Calls -/

/-- What a call does to the challenge in flight. -/
inductive Accounts (engine : Engine) (s : Session) (c : Call) : Prop
  /-- Nothing; if the call fails, it is not for a check that the catalog does not have. -/
  | kept (issued : s.issued engine c = none)
      (silent : ∀ reply, (s.call engine c).result = .ok reply → reply.entry? = none)
      (known : ∀ build id, (s.call engine c).result ≠ .error (.desync build id))
      (flight : (s.call engine c).session.inFlight = s.inFlight)
      (cycles : (s.call engine c).session.cycles = s.cycles)
  /-- When none is in flight, it sends one. -/
  | asked {challenge : Challenge} {now : Nat} (idle : s.inFlight = none)
      (issued : s.issued engine c = some challenge)
      (sent : (s.call engine c).result =
        .ok (.update (.challenge (s.cipher.sealed challenge.payload).1)))
      (flight : (s.call engine c).session.inFlight = some ⟨challenge.inFlight, now⟩)
      (cycles : (s.call engine c).session.cycles = s.cycles)
  /-- It is the answer to the one in flight. -/
  | answered {f : InFlight} {report : CycleReport} (outstanding : s.inFlight = some f)
      (issued : s.issued engine c = none)
      (settled : (s.call engine c).result = .ok (.reaction (.cycle report)))
      (flight : (s.call engine c).session.inFlight = none)
      (cycles : (s.call engine c).session.cycles = s.cycles + 1)
  /-- The one in flight is given up. -/
  | expired {f : InFlight} {p : Penalty} (outstanding : s.inFlight = some f)
      (issued : s.issued engine c = none)
      (settled : (s.call engine c).result = .ok (.update (.timedOut p)))
      (flight : (s.call engine c).session.inFlight = none)
      (cycles : (s.call engine c).session.cycles = s.cycles)

variable {engine : Engine} {now : Nat} {s : Session}

/-- An answer to the challenge in flight is always read. -/
theorem Sound.result_checksResult (h : s.Sound engine) (active : s.phase = .active) {f : InFlight}
    (flight : s.inFlight = some f) {payload body : Bytes}
    (said : s.opens (.receive payload now) = Wire.ClientOpcode.checksResult.byte :: body) :
    (s.call engine (.receive payload now)).result =
      .ok (.reaction (.cycle (s.verdict engine (Response.examine
        (engine.catalog.found s.build f.ids) body (InFlight.elapsed f now)).outcome))) := by
  rw [call_receive engine said, handle_checksResult (s := s.hearing payload) active flight
    (h.validate_ok flight body (InFlight.elapsed f now))]
  rfl

/-- Behind the right answer to the seed nothing is in flight. -/
theorem Sound.idle_of_admits (h : s.Sound engine) {c : Call}
    (admits : s.Admits engine (s.opens c)) : (s.call engine c).session.inFlight = none := by
  have idle : s.inFlight = none := h.inFlight_eq_none (by rw [admits.1]; decide)
  obtain ⟨payload, now, rfl⟩ := exists_receive_of_admits admits
  exact (inFlight_of_admits admits).trans idle

/-- The first challenge is due an interval after the right answer to the seed. -/
theorem Sound.due_of_admits (h : s.Sound engine) {payload : Bytes}
    (admits : s.Admits engine (s.opens (.receive payload now))) :
    (s.call engine (.receive payload now)).session.Due engine
      (now + engine.config.timing.interval.toNat) := by
  refine ⟨active_of_admits admits, h.idle_of_admits admits, ?_⟩
  rw [waitingSince_of_admits admits]
  omega

theorem accounts_of_ok {c : Call} {reply : Reply} (issued : s.issued engine c = none)
    (answer : (s.call engine c).result = .ok reply) (silent : reply.entry? = none)
    (flight : (s.call engine c).session.inFlight = s.inFlight)
    (cycles : (s.call engine c).session.cycles = s.cycles) : s.Accounts engine c := by
  refine .kept issued (fun reply' same => ?_) (fun _ _ lost => ?_) flight cycles
  · rw [answer] at same
    cases same
    exact silent
  · rw [answer] at lost
    cases lost

theorem accounts_of_error {c : Call} {fault : Fault} (issued : s.issued engine c = none)
    (failed : (s.call engine c).result = .error fault)
    (known : ∀ build id, fault ≠ .desync build id)
    (flight : (s.call engine c).session.inFlight = s.inFlight)
    (cycles : (s.call engine c).session.cycles = s.cycles) : s.Accounts engine c := by
  refine .kept issued (fun reply same => ?_) (fun build id lost => ?_) flight cycles
  · rw [failed] at same
    cases same
  · rw [failed] at lost
    cases lost
    exact known build id rfl

theorem Sound.accounts_receive (h : s.Sound engine) (payload : Bytes) (now : Nat) :
    s.Accounts engine (.receive payload now) := by
  have received := received_receive engine payload now s
  generalize turn : s.receive engine payload now = t at received
  generalize (s.cipher.opened payload).1 = message at received
  have called : s.call engine (.receive payload now) = t.map .reaction := by
    rw [Session.call, turn]
  cases received with
  | empty | unknown | refused =>
    exact accounts_of_error rfl (by rw [called]; rfl) (by simp) (by rw [called]; rfl)
      (by rw [called]; rfl)
  | missing | loaded | failed | accepted =>
    rw [sending_eq] at called
    exact accounts_of_ok rfl (by rw [called]; rfl) rfl (by rw [called]; rfl) (by rw [called]; rfl)
  | rejected =>
    exact accounts_of_ok rfl (by rw [called]; rfl) rfl (by rw [called]; rfl) (by rw [called]; rfl)
  | answered active flight =>
    exact .answered flight rfl (by rw [called]; rfl) (by rw [called]; rfl) (by rw [called]; rfl)
  | desynced active flight lost =>
    rw [(h.hearing payload).validate_ok flight] at lost
    cases lost

theorem Sound.accounts_tick (h : s.Sound engine) (now : Nat) (seeds : SeedStream) :
    s.Accounts engine (.tick now seeds) := by
  have ticked := ticked_tick engine now seeds s
  generalize turn : s.tick engine now seeds = result at ticked
  have called : s.call engine (.tick now seeds) = result.1.map .update := by
    rw [Session.call, turn]
  cases ticked with
  | idle due =>
    exact accounts_of_ok (by rw [issued, if_neg due]) (by rw [called]; rfl) rfl
      (by rw [called]; rfl) (by rw [called]; rfl)
  | expired late =>
    exact .expired late.2.1 (by rw [issued, if_neg (not_due_of_expired late)])
      (by rw [called]; rfl) (by rw [called]; rfl) (by rw [called]; rfl)
  | challenged due built =>
    exact .asked due.2.1 (by rw [issued, if_pos due, built]; rfl) (by rw [called]; rfl)
      (by rw [called]; rfl) (by rw [called]; rfl)
  | unbuilt due broken =>
    obtain rfl := h.nextChallenge_error broken
    exact accounts_of_error (by rw [issued, if_pos due, broken]; rfl) (by rw [called]; rfl)
      (by simp) (by rw [called]; rfl) (by rw [called]; rfl)

/-- **All that a call can do to the challenge in flight.** -/
theorem Sound.accounts (h : s.Sound engine) (c : Call) : s.Accounts engine c := by
  cases c with
  | receive payload now => exact h.accounts_receive payload now
  | tick now seeds => exact h.accounts_tick now seeds

/-! ### Runs -/

theorem Sound.after (h : s.Sound engine) (calls : List Call) :
    (s.after engine calls).Sound engine := by
  induction calls generalizing s with
  | nil => exact h
  | cons c rest ih => exact ih (h.call c)

/-- The entry that the result of a call makes, if it makes one. -/
def entryOf (result : Except Fault Reply) : List LedgerEntry :=
  result.toOption.toList.filterMap Reply.entry?

theorem ledger_cons (c : Call) (rest : List Call) :
    s.ledger engine (c :: rest) =
      entryOf (s.call engine c).result ++ (s.call engine c).session.ledger engine rest := by
  rw [ledger, replies, List.filterMap_append]
  rfl

theorem entryOf_eq_nil {result : Except Fault Reply}
    (silent : ∀ reply, result = .ok reply → reply.entry? = none) : entryOf result = [] := by
  cases result with
  | error => rfl
  | ok reply => simp [entryOf, Except.toOption, silent reply rfl]

/-- A payload that comes while nothing is in flight makes no entry. -/
theorem Sound.entryOf_of_idle (h : s.Sound engine) (idle : s.inFlight = none) (payload : Bytes)
    (now : Nat) : entryOf (s.call engine (.receive payload now)).result = [] := by
  cases h.accounts (.receive payload now) with
  | kept _ silent => exact entryOf_eq_nil silent
  | asked _ issued => cases issued
  | answered outstanding | expired outstanding =>
    rw [idle] at outstanding
    cases outstanding

/-- A challenge that is due is entered, if the quota is one that an index can count. -/
theorem Sound.entryOf_of_due (h : s.Sound engine)
    (quota : engine.config.scheduling.secondaryQuota ≤ 255) (due : s.Due engine now)
    (seeds : SeedStream) :
    entryOf (s.call engine (.tick now seeds)).result = [.asked] ∧
      ∃ f, (s.call engine (.tick now seeds)).session.inFlight = some f := by
  obtain ⟨c, later, built, -⟩ := h.exists_nextChallenge quota seeds
  have issued := issued_due due built
  cases h.accounts (.tick now seeds) with
  | asked _ _ sent flight => exact ⟨by rw [sent]; rfl, _, flight⟩
  | kept none | answered _ none | expired _ none =>
    rw [issued] at none
    cases none

/-- In the ledger of a run challenges and settlements take turns. -/
theorem Sound.balanced_ledger (h : s.Sound engine) (calls : List Call) :
    Balanced s.inFlight.isSome (s.ledger engine calls) (s.after engine calls).inFlight.isSome := by
  induction calls generalizing s with
  | nil => exact .nil
  | cons c rest ih =>
    have later := ih (h.call c)
    rw [ledger_cons]
    cases h.accounts c with
    | kept _ silent _ flight =>
      rw [flight] at later
      rwa [entryOf_eq_nil silent]
    | asked idle _ sent flight =>
      rw [flight] at later
      rw [idle, sent]
      exact .asked later
    | answered outstanding _ settled flight =>
      rw [flight] at later
      rw [outstanding, settled]
      exact .answered later
    | expired outstanding _ settled flight =>
      rw [flight] at later
      rw [outstanding, settled]
      exact .expired later

/-- A session counts its answered challenges. -/
theorem Sound.cycles_after (h : s.Sound engine) (calls : List Call) :
    (s.after engine calls).cycles = s.cycles + (s.ledger engine calls).count .answered := by
  induction calls generalizing s with
  | nil => rfl
  | cons c rest ih =>
    have later := ih (h.call c)
    rw [ledger_cons, List.count_append, Session.after, later]
    cases h.accounts c with
    | kept _ silent _ _ cycles =>
      rw [entryOf_eq_nil silent, cycles]
      simp
    | asked _ _ sent _ cycles =>
      rw [sent, cycles]
      simp [entryOf, Except.toOption, Reply.entry?]
    | answered _ _ settled _ cycles =>
      rw [settled, cycles]
      simp [entryOf, Except.toOption, Reply.entry?]
      omega
    | expired _ _ settled _ cycles =>
      rw [settled, cycles]
      simp [entryOf, Except.toOption, Reply.entry?]

theorem challenges_append (engine : Engine) (s : Session) (a b : List Call) :
    s.challenges engine (a ++ b) =
      s.challenges engine a ++ (s.after engine a).challenges engine b := by
  induction a generalizing s with
  | nil => rfl
  | cons c rest ih => rw [List.cons_append, challenges, challenges, ih, List.append_assoc, after]

/-- The challenges that a row of calls sends are those of its ledger. -/
theorem Sound.length_challenges (h : s.Sound engine) (calls : List Call) :
    (s.challenges engine calls).length = (s.ledger engine calls).count .asked := by
  induction calls generalizing s with
  | nil => rfl
  | cons c rest ih =>
    rw [challenges, List.length_append, ih (h.call c), ledger_cons, List.count_append]
    cases h.accounts c with
    | kept issued silent => rw [issued, entryOf_eq_nil silent]; rfl
    | asked _ issued sent => rw [issued, sent]; rfl
    | answered _ issued settled | expired _ issued settled => rw [issued, settled]; rfl

/-- The challenge in flight is the last one that was sent, or was in flight before all calls. -/
theorem Sound.flight_after (h : s.Sound engine) (calls : List Call) {f : InFlight}
    (flight : (s.after engine calls).inFlight = some f) :
    (∃ c, (s.challenges engine calls).getLast? = some c ∧ f.ids = c.inFlight) ∨
      s.challenges engine calls = [] ∧ s.inFlight = some f := by
  induction calls generalizing s with
  | nil => exact .inr ⟨rfl, flight⟩
  | cons c rest ih =>
    rw [challenges]
    rcases ih (h.call c) flight with ⟨last, isLast, ids⟩ | ⟨none, before⟩
    · refine .inl ⟨last, ?_, ids⟩
      rw [List.getLast?_append, isLast]
      rfl
    · -- no later call sends a challenge: the one in flight is that of this call, or an older one
      rw [none, List.append_nil]
      cases h.accounts c with
      | kept issued _ _ same =>
        rw [same] at before
        exact .inr ⟨by rw [issued]; rfl, before⟩
      | asked _ issued _ sent =>
        rw [sent] at before
        cases before
        exact .inl ⟨_, by rw [issued]; rfl, rfl⟩
      | answered _ _ _ settled | expired _ _ _ settled =>
        rw [settled] at before
        cases before

/-! ### Every run -/

/-- What a call may do about challenges. -/
structure Settles (engine : Engine) (s : Session) (c : Call) : Prop where
  /-- It sends a challenge just if one is issued, and none while one is in flight. -/
  sends : ∀ wire, (s.call engine c).result = .ok (.update (.challenge wire)) ↔
    ∃ challenge, s.issued engine c = some challenge ∧
      wire = (s.cipher.sealed challenge.payload).1
  single : s.inFlight ≠ none → s.issued engine c = none
  /-- A challenge that is issued asks its checks, in order. -/
  asks : ∀ challenge, s.issued engine c = some challenge →
    Challenge.Asks engine.catalog s.build s.keys.tagMask challenge.inFlight challenge.payload
  /-- Nothing is answered and nothing expires while none is in flight. -/
  idle : s.inFlight = none → ∀ reply, (s.call engine c).result = .ok reply →
    reply.entry? ≠ some .answered ∧ reply.entry? ≠ some .expired
  /-- It does not fail for a check that the catalog does not have. -/
  known : ∀ build id, (s.call engine c).result ≠ .error (.desync build id)

theorem Sound.asks_issued (h : s.Sound engine) {c : Call} {challenge : Challenge}
    (issued : s.issued engine c = some challenge) :
    Challenge.Asks engine.catalog s.build s.keys.tagMask challenge.inFlight challenge.payload := by
  obtain ⟨now, seeds, later, rfl, -, built⟩ := exists_of_issued issued
  exact h.nextChallenge_asks built

theorem Sound.settles (h : s.Sound engine) (c : Call) : s.Settles engine c where
  sends wire := by
    cases h.accounts c with
    | kept none silent =>
      rw [none]
      refine ⟨fun sent => ?_, nofun⟩
      cases silent _ sent
    | asked _ some sent =>
      rw [some, sent]
      simp [eq_comm]
    | answered _ none settled | expired _ none settled =>
      rw [none, settled]
      simp
  single flight := by
    cases h.accounts c with
    | kept none | answered _ none | expired _ none => exact none
    | asked idle => exact absurd idle flight
  asks _ issued := h.asks_issued issued
  idle none reply answer := by
    cases h.accounts c with
    | kept _ silent => simp [silent reply answer]
    | asked _ _ sent =>
      rw [sent] at answer
      cases answer
      simp [Reply.entry?]
    | answered outstanding | expired outstanding =>
      rw [none] at outstanding
      cases outstanding
  known build id lost := by
    cases h.accounts c with
    | kept _ _ known => exact known build id lost
    | asked _ _ settled | answered _ _ settled | expired _ _ settled =>
      rw [settled] at lost
      cases lost

/-- **Every challenge is settled once.** Whatever is called after a start, a challenge is in flight
only while the session is active; in the ledger challenges and settlements take turns, so there are
as many challenges as answers and expiries, and one more while one is in flight; the session counts
its answers; the challenge in flight is the last one that was sent; and each further call keeps to
this. -/
theorem challenges_settled_once {engine : Engine} {account : UInt32} {build : Build}
    {secret : Bytes} {now : Nat} {seeds later : SeedStream} {wire : Bytes} {s : Session}
    (started : start engine account build secret now seeds = (.ok (wire, s), later))
    (calls : List Call) :
    ((s.after engine calls).inFlight ≠ none → (s.after engine calls).phase = .active) ∧
      Balanced false (s.ledger engine calls) (s.after engine calls).inFlight.isSome ∧
      (s.ledger engine calls).count .asked =
        (s.ledger engine calls).count .answered + (s.ledger engine calls).count .expired +
          (if (s.after engine calls).inFlight = none then 0 else 1) ∧
      (s.after engine calls).cycles = (s.ledger engine calls).count .answered ∧
      (∀ f, (s.after engine calls).inFlight = some f →
        ∃ c, (s.challenges engine calls).getLast? = some c ∧ f.ids = c.inFlight) ∧
      ∀ c, (s.after engine calls).Settles engine c := by
  have sound := sound_of_start started
  obtain ⟨idle, fresh⟩ : s.inFlight = none ∧ s.cycles = 0 := by
    obtain ⟨keys, -, -, rfl⟩ := start_eq_ok started
    exact ⟨rfl, rfl⟩
  have balanced := sound.balanced_ledger calls
  rw [idle] at balanced
  refine ⟨(sound.after calls).active, balanced, ?_, ?_, fun f flight => ?_,
    (sound.after calls).settles⟩
  · have count := balanced.count
    cases flight : (s.after engine calls).inFlight <;> simpa [flight] using count
  · rw [sound.cycles_after, fresh, Nat.zero_add]
  · rcases sound.flight_after calls flight with last | ⟨-, before⟩
    · exact last
    · rw [idle] at before
      cases before

/-- A challenge that is sent at 30300 and answered at 30400, though not with what was asked. -/
theorem sample_challenges_settled :
    ∃ wire s later load prove answer,
      start Engine.sample 7 5875 [0x5A, 0xA5] 100 (SeedStream.ofSeed 1) = (.ok (wire, s), later) ∧
      let asked := s.after Engine.sample
        [.receive load 200, .receive prove 300, .tick 30300 later]
      let settled := s.after Engine.sample
        [.receive load 200, .receive prove 300, .tick 30300 later, .receive answer 30400]
      asked.inFlight ≠ none ∧ asked.cycles = 0 ∧ settled.inFlight = none ∧ settled.cycles = 1 ∧
      s.ledger Engine.sample
          [.receive load 200, .receive prove 300, .tick 30300 later, .receive answer 30400] =
        [.asked, .answered] := by
  obtain ⟨wire, s, later, started⟩ :=
    exists_start Engine.sample 7 5875 100 (SeedStream.ofSeed 1) (List.cons_ne_nil _ _)
  have sound := sound_of_start started
  have waiting := (stocks_of_start started).1
  obtain ⟨load, prove, -, admits⟩ := exists_admits Engine.sample waiting 200 300
  let loaded := (s.call Engine.sample (.receive load 200)).session
  let proven := (loaded.call Engine.sample (.receive prove 300)).session
  let asked := (proven.call Engine.sample (.tick 30300 later)).session
  have loadedSound : loaded.Sound Engine.sample := sound.call _
  have provenSound : proven.Sound Engine.sample := loadedSound.call _
  have due : proven.Due Engine.sample 30300 := loadedSound.due_of_admits admits
  obtain ⟨entered, f, flight⟩ := provenSound.entryOf_of_due (by decide) due later
  obtain ⟨answer, said⟩ := asked.exists_opens [Wire.ClientOpcode.checksResult.byte] 30400
  have active : asked.phase = .active := (phase_call_of_final (.inl due.1) _).trans due.1
  have answered := (provenSound.call _).result_checksResult active flight said
  -- the entries of the calls, one after the other
  have none₁ := sound.entryOf_of_idle (sound.inFlight_eq_none (by rw [waiting]; decide)) load 200
  have none₂ := loadedSound.entryOf_of_idle
    (loadedSound.inFlight_eq_none (by rw [admits.1]; decide)) prove 300
  have open₃ : s.ledger Engine.sample
      [.receive load 200, .receive prove 300, .tick 30300 later] = [.asked] := by
    rw [ledger_cons, none₁, ledger_cons, none₂, ledger_cons, entered]
    rfl
  have closed₄ : s.ledger Engine.sample
      [.receive load 200, .receive prove 300, .tick 30300 later, .receive answer 30400] =
        [.asked, .answered] := by
    rw [ledger_cons, none₁, ledger_cons, none₂, ledger_cons, entered, ledger_cons, answered]
    rfl
  obtain ⟨-, -, -, before, -⟩ := challenges_settled_once started
    [.receive load 200, .receive prove 300, .tick 30300 later]
  obtain ⟨-, -, balance, after, -⟩ := challenges_settled_once started
    [.receive load 200, .receive prove 300, .tick 30300 later, .receive answer 30400]
  rw [open₃] at before
  rw [closed₄] at balance after
  refine ⟨wire, s, later, load, prove, answer, started, ?_, before, ?_, after, closed₄⟩
  · exact fun idle => Option.some_ne_none f (flight.symm.trans idle)
  · by_contra still
    rw [if_neg still] at balance
    simp at balance

end Session

end Attest
