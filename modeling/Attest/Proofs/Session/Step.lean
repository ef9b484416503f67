import Attest.Proofs.Cipher
import Attest.Session
import Mathlib.Tactic.SplitIfs

/-!
# The steps of a session

A session is called when a payload arrives and when time has gone by. `Session.call` puts both
into one step, `Session.after` is the session at the end of a row of calls, and `Session.replies`
lists what they answer.

All that a step can do is said once, by two relations with a constructor for each way it can go:

* `Session.Received` relates an opened message to what the session makes of it
  (`Session.received_receive`);
* `Session.Ticked` relates a time to what is due then (`Session.ticked_tick`).

An invariant of all runs is a case analysis over the two.
-/

namespace Attest

open Wire (ClientOpcode)

/-! ### Calls -/

/-- A call on a session. -/
inductive Call where
  /-- A payload of the client arrives. -/
  | receive (payload : Bytes) (now : Nat)
  /-- Time has gone by. The seeds are those that all other sessions have left. -/
  | tick (now : Nat) (seeds : SeedStream)

/-- The bytes of the client that a call hands in. -/
def Call.payload : Call → Bytes
  | receive payload _ => payload
  | tick _ _ => []

/-- When a call is made, in milliseconds. -/
def Call.now : Call → Nat
  | receive _ now => now
  | tick now _ => now

/-- What a call answers. -/
inductive Reply where
  | reaction (reaction : Reaction)
  | update (update : Update)
  deriving DecidableEq, Repr

/-- The sealed messages of a reply, in order. -/
def Reply.wires : Reply → List Bytes
  | reaction (.send wires) => wires
  | update (.challenge wire) => [wire]
  | _ => []

/-- The penalty of a reply, if there is one in it. -/
def Reply.penalty? : Reply → Option Penalty
  | reaction (.penalty p) => some p
  | reaction (.cycle report) => report.penalty
  | update (.timedOut p) => some p
  | _ => none

/-- The turn with another form of its result. -/
def Turn.map {α β : Type} (f : α → β) (turn : Turn α) : Turn β :=
  ⟨turn.result.map f, turn.session, turn.log⟩

@[simp] theorem Turn.map_session {α β : Type} (f : α → β) (turn : Turn α) :
    (turn.map f).session = turn.session := rfl

/-- The sealed messages that a turn sends, in order; there are none if it fails. -/
def Turn.wires (turn : Turn Reply) : List Bytes :=
  match turn.result with
  | .ok reply => reply.wires
  | .error _ => []

namespace Session

/-- Takes a call. -/
def call (engine : Engine) (s : Session) : Call → Turn Reply
  | .receive payload now => (s.receive engine payload now).map .reaction
  | .tick now seeds => (s.tick engine now seeds).1.map .update

/-- The session after a row of calls. -/
def after (engine : Engine) (s : Session) : List Call → Session
  | [] => s
  | c :: rest => after engine (s.call engine c).session rest

/-- What a row of calls answers, in order; a call that fails does not answer. -/
def replies (engine : Engine) (s : Session) : List Call → List Reply
  | [] => []
  | c :: rest =>
    (s.call engine c).result.toOption.toList ++ replies engine (s.call engine c).session rest

theorem after_append (engine : Engine) (s : Session) (a b : List Call) :
    s.after engine (a ++ b) = (s.after engine a).after engine b := by
  induction a generalizing s with
  | nil => rfl
  | cons c rest ih => exact ih (s.call engine c).session

/-! ### Sending -/

@[simp] theorem sealed_eq (s : Session) (message : Bytes) :
    s.sealed message =
      ((s.cipher.sealed message).1, { s with cipher := (s.cipher.sealed message).2 }) := rfl

theorem sealedAll_eq (s : Session) (messages : List Bytes) :
    s.sealedAll messages =
      ((s.cipher.sealedAll messages).1, { s with cipher := (s.cipher.sealedAll messages).2 }) := by
  induction messages generalizing s with
  | nil => rfl
  | cons message rest ih => simp only [sealedAll, sealed_eq, ih, CipherPair.sealedAll]

theorem sending_eq (s : Session) (messages : List Bytes) (log : List Event) :
    s.sending messages log =
      ⟨.ok (.send (s.cipher.sealedAll messages).1),
        { s with cipher := (s.cipher.sealedAll messages).2 }, log⟩ := by
  simp only [sending, sealedAll_eq]

/-! ### Start -/

theorem start_eq_ok {engine : Engine} {account : UInt32} {build : Build} {secret : Bytes}
    {now : Nat} {seeds later : SeedStream} {wire : Bytes} {s : Session}
    (h : start engine account build secret now seeds = (.ok (wire, s), later)) :
    ∃ keys, Keys.derive? secret engine.image.secrets.seed = some keys ∧
      wire = ((CipherPair.server keys).sealed engine.image.announcement.message).1 ∧
      s = { initial engine account build keys seeds.next64.1 now with
        cipher := ((CipherPair.server keys).sealed engine.image.announcement.message).2 } := by
  unfold start at h
  cases hk : Keys.derive? secret engine.image.secrets.seed with
  | none => rw [hk] at h; cases h
  | some keys =>
    rw [hk] at h
    simp only [sealed_eq, initial, Prod.mk.injEq, Except.ok.injEq] at h
    obtain ⟨⟨hw, hs⟩, -⟩ := h
    exact ⟨keys, rfl, hw.symm, hs.symm⟩

theorem build_of_start {engine : Engine} {account : UInt32} {build : Build} {secret : Bytes}
    {now : Nat} {seeds later : SeedStream} {wire : Bytes} {s : Session}
    (started : start engine account build secret now seeds = (.ok (wire, s), later)) :
    s.build = build := by
  obtain ⟨keys, -, -, rfl⟩ := start_eq_ok started
  rfl

/-- A session starts in the first phase, with empty stocks. -/
theorem stocks_of_start {engine : Engine} {account : UInt32} {build : Build} {secret : Bytes}
    {now : Nat} {seeds later : SeedStream} {wire : Bytes} {s : Session}
    (started : start engine account build secret now seeds = (.ok (wire, s), later)) :
    s.phase = .awaitingModule ∧
      s.scheduler = Scheduler.start engine.config.scheduling seeds.next64.1 := by
  obtain ⟨keys, -, -, rfl⟩ := start_eq_ok started
  exact ⟨rfl, rfl⟩

theorem seeds_of_start {engine : Engine} {account : UInt32} {build : Build} {secret : Bytes}
    {now : Nat} {seeds later : SeedStream} {wire : Bytes} {s : Session}
    (started : start engine account build secret now seeds = (.ok (wire, s), later)) :
    later = seeds.next64.2 := by
  unfold start at started
  cases hk : Keys.derive? secret engine.image.secrets.seed with
  | none => rw [hk] at started; cases started
  | some keys =>
    rw [hk] at started
    exact (Prod.mk.inj started).2.symm

theorem exists_start (engine : Engine) (account : UInt32) (build : Build) (now : Nat)
    (seeds : SeedStream) {secret : Bytes} (h : secret ≠ []) :
    ∃ wire s later, start engine account build secret now seeds = (.ok (wire, s), later) := by
  simp only [start, Keys.derive?, if_neg h]
  exact ⟨_, _, _, rfl⟩

/-! ### Payloads -/

/-- The session that has opened a payload. -/
def hearing (s : Session) (payload : Bytes) : Session :=
  { s with cipher := (s.cipher.opened payload).2 }

/-- Whether the session has a use for a message. -/
def Awaits (s : Session) : ClientOpcode → Prop
  | .moduleMissing => s.phase = .awaitingModule
  | .moduleOk => s.phase = .awaitingModule
  | .moduleFailed => s.phase = .awaitingModule ∨ s.phase = .awaitingHash
  | .hashResult => s.phase = .awaitingHash
  | .checksResult => s.phase = .active ∧ s.inFlight ≠ none
  | .memoryResult => False

end Session

/-- The keys after the right answer to the seed. -/
def Engine.rotated (engine : Engine) (keys : Keys) : Keys :=
  keys.rotate engine.image.secrets.inbound engine.image.secrets.outbound

/-- What the right answer to the seed begins with. -/
def Engine.proof (engine : Engine) : Bytes :=
  ClientOpcode.hashResult.byte :: engine.image.secrets.answer.toList

namespace Session

/-- The session behind the right answer to the seed. -/
def admitted (engine : Engine) (now : Nat) (s : Session) : Session :=
  { s with
    keys := engine.rotated s.keys
    cipher := CipherPair.server (engine.rotated s.keys)
    phase := .active
    waitingSince := now }

/-- The decision on an answer that was read. -/
def verdict (engine : Engine) (s : Session) (outcome : Outcome) : CycleReport where
  outcome := outcome
  penalty := Penalty.judge engine.config.penalties s.account outcome
    (outcome.report?.bind fun r => r.firstFailure?.bind (engine.catalog.get? s.build))

/-- The event of a decision. -/
def verdictEvent (s : Session) (report : CycleReport) : Event :=
  match report.penalty with
  | some p => .penaltyDecided p
  | none => .cyclePassed s.account s.cycles

/-- What a session that has opened a message makes of it. -/
inductive Received (engine : Engine) (now : Nat) (s : Session) : Bytes → Turn Reaction → Prop
  /-- Nothing was sent. -/
  | empty : Received engine now s [] ⟨.error (.truncated ⟨1, 0⟩), s, []⟩
  /-- The first byte is no opcode. -/
  | unknown {byte : UInt8} {body : Bytes} (h : ClientOpcode.ofByte? byte = none) :
      Received engine now s (byte :: body) ⟨.error (.unknownOpcode byte), s, []⟩
  /-- The session has no use for the message. -/
  | refused {opcode : ClientOpcode} {body : Bytes} (h : ¬ s.Awaits opcode) :
      Received engine now s (opcode.byte :: body) (s.refuse opcode)
  /-- The client misses the module. -/
  | missing {body : Bytes} (h : s.phase = .awaitingModule) :
      Received engine now s (ClientOpcode.moduleMissing.byte :: body)
        (s.sending (ModuleImage.chunkMessages engine.image.blob) [.moduleMissing s.account])
  /-- The client has loaded the module. -/
  | loaded {body : Bytes} (h : s.phase = .awaitingModule) :
      Received engine now s (ClientOpcode.moduleOk.byte :: body)
        ({ s with phase := .awaitingHash }.sending
          [ModuleImage.hashRequest engine.image.secrets.seed] [.moduleLoaded s.account])
  /-- The client could not load the module. -/
  | failed {body : Bytes} (h : s.phase = .awaitingModule ∨ s.phase = .awaitingHash) :
      Received engine now s (ClientOpcode.moduleFailed.byte :: body)
        ({ s with phase := .awaitingModule }.sending
          [engine.image.announcement.message] [.moduleFailed s.account])
  /-- The module gives the right answer to the seed. -/
  | accepted {body : Bytes} (h : s.phase = .awaitingHash)
      (right : engine.image.secrets.answer.toList <+: body) :
      Received engine now s (ClientOpcode.hashResult.byte :: body)
        ((s.admitted engine now).sending [engine.image.functions.message]
          [.hashAccepted s.account, .keysRotated (engine.rotated s.keys)])
  /-- The module gives a wrong answer to the seed. -/
  | rejected {body : Bytes} (h : s.phase = .awaitingHash)
      (wrong : ¬ engine.image.secrets.answer.toList <+: body) :
      Received engine now s (ClientOpcode.hashResult.byte :: body)
        ⟨.ok (.penalty (Penalty.decide engine.config.penalties s.account .hashMismatch none)),
          { s with phase := .rejected },
          [.penaltyDecided
            (Penalty.decide engine.config.penalties s.account .hashMismatch none)]⟩
  /-- A challenge is answered. -/
  | answered {body : Bytes} {f : InFlight} {examination : Response.Examination}
      (h : s.phase = .active) (flight : s.inFlight = some f)
      (read : Response.validate engine.catalog s.build f.ids body (InFlight.elapsed f now) =
        .ok examination) :
      Received engine now s (ClientOpcode.checksResult.byte :: body)
        ⟨.ok (.cycle (s.verdict engine examination.outcome)),
          { s with inFlight := none, waitingSince := now, cycles := s.cycles + 1 },
          examination.events ++ [{ s with cycles := s.cycles + 1 }.verdictEvent
            (s.verdict engine examination.outcome)]⟩
  /-- A challenge is answered that holds a check which the catalog does not have. -/
  | desynced {body : Bytes} {f : InFlight} {fault : Fault}
      (h : s.phase = .active) (flight : s.inFlight = some f)
      (lost : Response.validate engine.catalog s.build f.ids body (InFlight.elapsed f now) =
        .error fault) :
      Received engine now s (ClientOpcode.checksResult.byte :: body)
        ⟨.error fault, { s with inFlight := none }, fault.events⟩

theorem byte_eq_of_ofByte? {byte : UInt8} {opcode : ClientOpcode}
    (h : ClientOpcode.ofByte? byte = some opcode) : byte = opcode.byte := by
  unfold ClientOpcode.ofByte? at h
  split_ifs at h with h0 h1 h2 h3 h4 h5 <;> cases h <;> assumption

theorem ne_byte_of_ofByte? {byte : UInt8} (h : ClientOpcode.ofByte? byte = none)
    (opcode : ClientOpcode) : byte ≠ opcode.byte := by
  rintro rfl
  rw [ClientOpcode.ofByte?_byte] at h
  cases h

theorem byte_inj {a b : ClientOpcode} : a.byte = b.byte ↔ a = b := by
  refine ⟨fun h => ?_, fun h => h ▸ rfl⟩
  rw [← Option.some_inj, ← ClientOpcode.ofByte?_byte a, h, ClientOpcode.ofByte?_byte]

/-- A session that has opened a message makes of it what `Received` says. -/
theorem received_handle (engine : Engine) (now : Nat) (s : Session) (opcode : ClientOpcode)
    (body : Bytes) :
    Received engine now s (opcode.byte :: body) (s.handle engine opcode body now) := by
  unfold handle
  split
  case h_1 h => exact .missing h
  case h_2 h => exact .loaded h
  case h_3 h => exact .failed (.inl h)
  case h_4 h => exact .failed (.inr h)
  case h_5 h =>
    unfold receiveHash
    split
    case isTrue right => exact .accepted h (List.prefix_iff_eq_take.2 (by simpa using right.symm))
    case isFalse wrong =>
      refine .rejected h fun right => wrong ?_
      simpa using (List.prefix_iff_eq_take.1 right).symm
  case h_6 f h flight =>
    unfold receiveAnswer
    cases hv : Response.validate engine.catalog s.build f.ids body (InFlight.elapsed f now) with
    | error fault => simpa only [hv] using .desynced h flight hv
    | ok examination => simpa only [hv] using .answered h flight hv
  case h_7 opcode _ _ _ h1 h2 h3 h4 h5 h6 =>
    -- the rows before the last one are just those that `Awaits` lists
    refine .refused fun use => ?_
    cases opcode with
    | moduleMissing => exact h1 rfl use
    | moduleOk => exact h2 rfl use
    | checksResult =>
      obtain ⟨f, flight⟩ := Option.ne_none_iff_exists'.1 use.2
      exact h6 f rfl use.1 flight
    | memoryResult => exact use
    | hashResult => exact h5 rfl use
    | moduleFailed => exact use.elim (h3 rfl) (h4 rfl)

theorem received_receive (engine : Engine) (payload : Bytes) (now : Nat) (s : Session) :
    Received engine now (s.hearing payload) (s.cipher.opened payload).1
      (s.receive engine payload now) := by
  have opened_eq : s.opened payload = ((s.cipher.opened payload).1, s.hearing payload) := rfl
  unfold receive
  rw [opened_eq]
  cases (s.cipher.opened payload).1 with
  | nil => exact .empty
  | cons byte body =>
    cases hb : ClientOpcode.ofByte? byte with
    | none => simpa only [hb] using .unknown hb
    | some opcode =>
      rw [byte_eq_of_ofByte? hb]
      simpa only [ClientOpcode.ofByte?_byte] using received_handle engine now _ opcode body

/-! ### Messages in turn -/

section Turns

variable {engine : Engine} {body : Bytes} {now : Nat} {s : Session}

theorem handle_moduleMissing (h : s.phase = .awaitingModule) :
    s.handle engine .moduleMissing body now =
      s.sending (ModuleImage.chunkMessages engine.image.blob) [.moduleMissing s.account] := by
  simp only [handle, h]

theorem handle_moduleOk (h : s.phase = .awaitingModule) :
    s.handle engine .moduleOk body now =
      { s with phase := .awaitingHash }.sending
        [ModuleImage.hashRequest engine.image.secrets.seed] [.moduleLoaded s.account] := by
  simp only [handle, h]

theorem handle_moduleFailed (h : s.phase = .awaitingModule ∨ s.phase = .awaitingHash) :
    s.handle engine .moduleFailed body now =
      { s with phase := .awaitingModule }.sending
        [engine.image.announcement.message] [.moduleFailed s.account] := by
  rcases h with h | h <;> simp only [handle, h]

theorem handle_hashResult (h : s.phase = .awaitingHash)
    (right : engine.image.secrets.answer.toList <+: body) :
    s.handle engine .hashResult body now =
      (s.admitted engine now).sending [engine.image.functions.message]
        [.hashAccepted s.account, .keysRotated (engine.rotated s.keys)] := by
  have first : body.take 20 = engine.image.secrets.answer.toList := by
    simpa using (List.prefix_iff_eq_take.1 right).symm
  simp only [handle, h, receiveHash, if_pos first]
  rfl

theorem handle_hashResult_wrong (h : s.phase = .awaitingHash)
    (wrong : ¬ engine.image.secrets.answer.toList <+: body) :
    s.handle engine .hashResult body now =
      ⟨.ok (.penalty (Penalty.decide engine.config.penalties s.account .hashMismatch none)),
        { s with phase := .rejected },
        [.penaltyDecided
          (Penalty.decide engine.config.penalties s.account .hashMismatch none)]⟩ := by
  have first : body.take 20 ≠ engine.image.secrets.answer.toList :=
    fun same => wrong (List.prefix_iff_eq_take.2 (by simpa using same.symm))
  simp only [handle, h, receiveHash, if_neg first]

theorem handle_checksResult {f : InFlight} {examination : Response.Examination}
    (h : s.phase = .active) (flight : s.inFlight = some f)
    (read : Response.validate engine.catalog s.build f.ids body (InFlight.elapsed f now) =
      .ok examination) :
    s.handle engine .checksResult body now =
      ⟨.ok (.cycle (s.verdict engine examination.outcome)),
        { s with inFlight := none, waitingSince := now, cycles := s.cycles + 1 },
        examination.events ++ [{ s with cycles := s.cycles + 1 }.verdictEvent
          (s.verdict engine examination.outcome)]⟩ := by
  simp only [handle, h, flight, receiveAnswer, read]
  rfl

end Turns

/-! ### Time -/

/-- Whether this challenge has been left unanswered for too long. -/
def Expired (engine : Engine) (now : Nat) (s : Session) (f : InFlight) : Prop :=
  s.phase = .active ∧ s.inFlight = some f ∧
    engine.config.timing.timeout.toNat < now - f.sentAt

/-- Whether the time has come for a challenge. -/
def Due (engine : Engine) (now : Nat) (s : Session) : Prop :=
  s.phase = .active ∧ s.inFlight = none ∧
    engine.config.timing.interval.toNat ≤ now - s.waitingSince

/-- The checks of the next cycle. -/
def selection (engine : Engine) (s : Session) : Selection :=
  (s.scheduler.nextCycle engine.catalog s.build).1

/-- The session that has drawn the checks of the next cycle. -/
def drawn (engine : Engine) (s : Session) : Session :=
  { s with scheduler := (s.scheduler.nextCycle engine.catalog s.build).2 }

/-- The challenge of the next cycle, and the seeds that are left. -/
def nextChallenge (engine : Engine) (seeds : SeedStream) (s : Session) :
    Except Fault Challenge × SeedStream :=
  Challenge.ofSelection engine.catalog s.build (s.selection engine) s.keys.tagMask seeds

/-- What a session does as time goes by, and the seeds that are left. -/
inductive Ticked (engine : Engine) (now : Nat) (seeds : SeedStream) (s : Session) :
    Turn Update × SeedStream → Prop
  /-- Nothing is due. -/
  | idle (h : ¬ s.Due engine now) (h' : ∀ f, ¬ s.Expired engine now f) :
      Ticked engine now seeds s (⟨.ok .idle, s, []⟩, seeds)
  /-- The challenge was not answered in time. -/
  | expired {f : InFlight} (h : s.Expired engine now f) :
      Ticked engine now seeds s (s.expire engine f now, seeds)
  /-- A challenge is sent. -/
  | challenged {c : Challenge} {later : SeedStream} (h : s.Due engine now)
      (built : s.nextChallenge engine seeds = (.ok c, later)) :
      Ticked engine now seeds s
        (⟨.ok (.challenge (s.cipher.sealed c.payload).1),
          { s.drawn engine with
            inFlight := some ⟨c.inFlight, now⟩
            cipher := (s.cipher.sealed c.payload).2 },
          s.scheduler.refillEvents engine.catalog s.build ++ Challenge.events s.build (.ok c) ++
            [.challengeSent s.account c.inFlight]⟩, later)
  /-- A challenge is due and cannot be built. -/
  | unbuilt {fault : Fault} {later : SeedStream} (h : s.Due engine now)
      (broken : s.nextChallenge engine seeds = (.error fault, later)) :
      Ticked engine now seeds s
        (⟨.error fault, s.drawn engine,
          s.scheduler.refillEvents engine.catalog s.build ++
            Challenge.events s.build (.error fault)⟩, later)

theorem ticked_challenge {engine : Engine} {now : Nat} {s : Session} (seeds : SeedStream)
    (h : s.Due engine now) :
    Ticked engine now seeds s
      ((s.challenge engine now seeds).1.map .challenge, (s.challenge engine now seeds).2) := by
  rcases hc : s.nextChallenge engine seeds with ⟨fault | c, later⟩
  · have built := hc
    unfold nextChallenge selection at built
    simpa only [challenge, built] using .unbuilt h hc
  · have built := hc
    unfold nextChallenge selection at built
    simpa only [challenge, built] using .challenged h hc

/-- A session does as time goes by what `Ticked` says. -/
theorem ticked_tick (engine : Engine) (now : Nat) (seeds : SeedStream) (s : Session) :
    Ticked engine now seeds s (s.tick engine now seeds) := by
  unfold tick
  by_cases active : s.phase = .active
  · simp only [active, ne_eq, not_true_eq_false, ↓reduceIte]
    cases flight : s.inFlight with
    | some f =>
      by_cases late : engine.config.timing.timeout.toNat < now - f.sentAt
      · simpa only [late, ↓reduceIte] using .expired ⟨active, flight, late⟩
      · simp only [late, ↓reduceIte]
        refine .idle (fun h => ?_) fun f' h => late ?_
        · rw [h.2.1] at flight
          cases flight
        · obtain ⟨-, flight', late'⟩ := h
          rw [flight, Option.some.injEq] at flight'
          rwa [flight']
    | none =>
      by_cases due : engine.config.timing.interval.toNat ≤ now - s.waitingSince
      · simpa only [due, ↓reduceIte, Turn.map] using ticked_challenge seeds ⟨active, flight, due⟩
      · simp only [due, ↓reduceIte]
        refine .idle (fun h => due h.2.2) fun f' h => ?_
        obtain ⟨-, flight', -⟩ := h
        rw [flight] at flight'
        cases flight'
  · simp only [active, ne_eq, not_false_eq_true, ↓reduceIte]
    exact .idle (fun h => active h.1) fun _ h => active h.1

theorem tick_of_due {engine : Engine} {now : Nat} {s : Session} (due : s.Due engine now)
    (seeds : SeedStream) :
    s.tick engine now seeds =
      ((s.challenge engine now seeds).1.map .challenge, (s.challenge engine now seeds).2) := by
  obtain ⟨active, idle, late⟩ := due
  simp only [tick, active, idle, late, ne_eq, not_true_eq_false, ↓reduceIte, Turn.map]

theorem tick_of_expired {engine : Engine} {now : Nat} {s : Session} {f : InFlight}
    (late : s.Expired engine now f) (seeds : SeedStream) :
    s.tick engine now seeds = (s.expire engine f now, seeds) := by
  obtain ⟨active, flight, late⟩ := late
  simp only [tick, active, flight, late, ne_eq, not_true_eq_false, ↓reduceIte]

theorem not_due_of_expired {engine : Engine} {now : Nat} {s : Session} {f : InFlight}
    (late : s.Expired engine now f) : ¬ s.Due engine now := by
  intro due
  have flight := late.2.1
  rw [due.2.1] at flight
  cases flight

/-- While nothing is due, nothing is done. -/
theorem tick_of_quiet {engine : Engine} {now : Nat} {s : Session} (early : ¬ s.Due engine now)
    (intime : ∀ f, ¬ s.Expired engine now f) (seeds : SeedStream) :
    s.tick engine now seeds = (⟨.ok .idle, s, []⟩, seeds) := by
  have ticked := ticked_tick engine now seeds s
  generalize s.tick engine now seeds = result at ticked
  cases ticked with
  | idle => rfl
  | expired late => exact absurd late (intime _)
  | challenged due | unbuilt due => exact absurd due early

/-- Only a challenge that is due takes seeds. -/
theorem tick_snd (engine : Engine) (now : Nat) (seeds : SeedStream) (s : Session) :
    (s.Due engine now → (s.tick engine now seeds).2 = (s.nextChallenge engine seeds).2) ∧
      (¬ s.Due engine now → (s.tick engine now seeds).2 = seeds) := by
  have ticked := ticked_tick engine now seeds s
  generalize s.tick engine now seeds = result at ticked
  cases ticked with
  | idle early => exact ⟨fun due => absurd due early, fun _ => rfl⟩
  | expired late => exact ⟨fun due => absurd due (not_due_of_expired late), fun _ => rfl⟩
  | challenged due built | unbuilt due built =>
    exact ⟨fun _ => by rw [built], fun early => absurd due early⟩

/-- What a challenge that is due comes to. -/
theorem call_eq_of_due {engine : Engine} {now : Nat} {seeds : SeedStream} {s : Session}
    (due : s.Due engine now) :
    s.call engine (.tick now seeds) =
      match (s.nextChallenge engine seeds).1 with
      | .ok c => ⟨.ok (.update (.challenge (s.cipher.sealed c.payload).1)),
          { s.drawn engine with
            inFlight := some ⟨c.inFlight, now⟩
            cipher := (s.cipher.sealed c.payload).2 },
          s.scheduler.refillEvents engine.catalog s.build ++ Challenge.events s.build (.ok c) ++
            [.challengeSent s.account c.inFlight]⟩
      | .error fault => ⟨.error fault, s.drawn engine,
          s.scheduler.refillEvents engine.catalog s.build ++
            Challenge.events s.build (.error fault)⟩ := by
  have ticked := ticked_tick engine now seeds s
  rw [call]
  generalize s.tick engine now seeds = result at ticked
  cases ticked with
  | idle quiet => exact absurd due quiet
  | expired late => exact absurd due (not_due_of_expired late)
  | challenged _ built => simp only [built]; rfl
  | unbuilt _ broken => simp only [broken]; rfl

theorem call_due {engine : Engine} {now : Nat} {seeds later : SeedStream} {s : Session}
    {c : Challenge} (due : s.Due engine now)
    (built : s.nextChallenge engine seeds = (.ok c, later)) :
    (s.call engine (.tick now seeds)).session =
      { s.drawn engine with
        inFlight := some ⟨c.inFlight, now⟩
        cipher := (s.cipher.sealed c.payload).2 } := by
  rw [call_eq_of_due due, built]

theorem call_expired {engine : Engine} {now : Nat} {s : Session} {f : InFlight}
    (late : s.Expired engine now f) (seeds : SeedStream) :
    (s.call engine (.tick now seeds)).session =
      { s with inFlight := none, waitingSince := now } := by
  have ticked := ticked_tick engine now seeds s
  rw [call]
  generalize s.tick engine now seeds = result at ticked
  cases ticked with
  | idle _ early => exact absurd late (early f)
  | expired => rfl
  | challenged due | unbuilt due => exact absurd due (not_due_of_expired late)

end Session

end Attest
