import Attest.Proofs.Challenge.Masking
import Attest.Proofs.Session.Phases
import Attest.Proofs.Session.Refusal
import Attest.Proofs.Session.Sharing

/-!
# What does not depend on keys

Two sessions that differ in their keys only, those of the secret and those of the module, and that
hear the same from their clients, do the same (`Session.SameButKeys`): they pass through the same
phases, draw and judge the same checks, answer the same updates, penalties and faults, and have the
same lines above the level of debugging. What they say is the same but for the masks of challenges
(`Sight.SameButKeys`), so a mask is all that a message tells of a key.

* `Session.Sound.sameButKeys_call` : one call;
* `Session.Sound.sameButKeys_calls` : rows of calls;
* `Session.decisions_ignore_keys` : **nothing that a session decides depends on its keys**.
-/

namespace Attest

open Wire (ClientOpcode)

/-- The engine with other keys in its module. -/
def Engine.withKeys (engine : Engine) (inbound outbound : Key) : Engine :=
  { engine with
    image := { engine.image with secrets := { engine.image.secrets with inbound, outbound } } }

/-- The lines of a log above the level of debugging. -/
def Event.linesAboveDebug (log : List Event) : List String :=
  (log.filter (·.level ≠ .debug)).map Event.line

/-- An event for debugging, such as one about keys, adds no line above that level. -/
theorem Event.linesAboveDebug_concat (log : List Event) {e : Event} (quiet : e.level = .debug) :
    linesAboveDebug (log ++ [e]) = linesAboveDebug log := by
  have dropped : [e].filter (·.level ≠ .debug) = [] :=
    List.filter_eq_nil_iff.2 fun x hx => by simp [List.mem_singleton.1 hx, quiet]
  rw [linesAboveDebug, List.filter_append, dropped, List.append_nil, linesAboveDebug]

/-- What a sealed message shows without its key. -/
def blankWire (wire : Bytes) : Bytes :=
  .replicate wire.length 0

/-- A reply that shows no more of its messages than their lengths. -/
def Reply.blank : Reply → Reply
  | reaction (.send wires) => .reaction (.send (wires.map blankWire))
  | update (.challenge wire) => .update (.challenge (blankWire wire))
  | reply => reply

theorem map_blankWire_sealedAll (pair : CipherPair) (messages : List Bytes) :
    (pair.sealedAll messages).1.map blankWire = messages.map blankWire := by
  induction messages generalizing pair with
  | nil => rfl
  | cons message rest ih => simp [CipherPair.sealedAll, ih, blankWire]

/-- Whether two sessions are the same but for their keys. -/
def Session.SameButKeys (s s' : Session) : Prop :=
  ∃ keys cipher, s' = { s with keys, cipher }

/-- Whether two sights are the same but for keys: the sessions behind them, the results but for the
sealing, the lines above the level of debugging, and what the client reads, but for the masks if it
is a challenge. -/
structure Sight.SameButKeys (catalog : Catalog) (x y : Sight) : Prop where
  session : x.turn.session.SameButKeys y.turn.session
  result : x.turn.result.map Reply.blank = y.turn.result.map Reply.blank
  log : Event.linesAboveDebug x.turn.log = Event.linesAboveDebug y.turn.log
  read : x.read = y.read ∨ ∃ wire f p p', x.turn.result = .ok (.update (.challenge wire)) ∧
    x.turn.session.inFlight = some f ∧ x.read = [p] ∧ y.read = [p'] ∧
    Challenge.Veiled (catalog.found x.turn.session.build f.ids) x.turn.session.keys.tagMask
      y.turn.session.keys.tagMask p p'

namespace Session

/-- What a call tells a session: of a payload, the message that it opens to. -/
def plain (s : Session) : Call → Call
  | .receive payload now => .receive (s.opens (.receive payload now)) now
  | .tick now seeds => .tick now seeds

/-- What a row of calls tells a session. -/
def heard (engine : Engine) (s : Session) : List Call → List Call
  | [] => []
  | c :: rest => s.plain c :: heard engine (s.call engine c).session rest

variable {engine : Engine} {s s' : Session} {inbound outbound : Key} {body : Bytes} {now : Nat}

/-! ### Messages -/

theorem SameButKeys.hearing (h : s.SameButKeys s') (payload payload' : Bytes) :
    (s.hearing payload).SameButKeys (s'.hearing payload') := by
  obtain ⟨keys, cipher, rfl⟩ := h
  exact ⟨_, _, rfl⟩

theorem SameButKeys.said (h : s.SameButKeys s') (message : Bytes) :
    s'.saidTo (engine.withKeys inbound outbound) message = s.saidTo engine message := by
  obtain ⟨keys, cipher, rfl⟩ := h
  rfl

/-- Sessions that send the same messages show the same. -/
theorem SameButKeys.sending (h : s.SameButKeys s') (catalog : Catalog) (messages said : List Bytes)
    {log log' : List Event} (lines : Event.linesAboveDebug log = Event.linesAboveDebug log') :
    Sight.SameButKeys catalog ⟨(s.sending messages log).map .reaction, said⟩
      ⟨(s'.sending messages log').map .reaction, said⟩ := by
  obtain ⟨keys, cipher, rfl⟩ := h
  rw [sending_eq, sending_eq]
  refine ⟨⟨_, _, rfl⟩, ?_, lines, .inl rfl⟩
  simp [Turn.map, Except.map, Reply.blank, map_blankWire_sealedAll]

/-- A message with an opcode comes to the same under all keys. -/
theorem Sound.sameButKeys_handle (sound : s.Sound engine) (h : s.SameButKeys s')
    (inbound outbound : Key) (opcode : ClientOpcode) (body : Bytes) (now : Nat)
    (said : List Bytes) :
    Sight.SameButKeys engine.catalog ⟨(s.handle engine opcode body now).map .reaction, said⟩
      ⟨(s'.handle (engine.withKeys inbound outbound) opcode body now).map .reaction, said⟩ := by
  obtain ⟨keys, cipher, rfl⟩ := h
  -- what is awaited is told by the phase and by what is in flight, and no key changes these
  by_cases use : s.Awaits opcode
  · cases opcode with
    | moduleMissing =>
      rw [handle_moduleMissing use, handle_moduleMissing (by exact use)]
      exact SameButKeys.sending ⟨keys, cipher, rfl⟩ _ _ _ rfl
    | moduleOk =>
      rw [handle_moduleOk use, handle_moduleOk (by exact use)]
      exact SameButKeys.sending ⟨keys, cipher, rfl⟩ _ _ _ rfl
    | moduleFailed =>
      rw [handle_moduleFailed use, handle_moduleFailed (by exact use)]
      exact SameButKeys.sending ⟨keys, cipher, rfl⟩ _ _ _ rfl
    | hashResult =>
      by_cases right : engine.image.secrets.answer.toList <+: body
      · rw [handle_hashResult use right, handle_hashResult (by exact use) (by exact right)]
        exact SameButKeys.sending ⟨_, _, rfl⟩ _ _ _
          ((Event.linesAboveDebug_concat [.hashAccepted s.account] rfl).trans
            (Event.linesAboveDebug_concat [.hashAccepted s.account] rfl).symm)
      · rw [handle_hashResult_wrong use right,
          handle_hashResult_wrong (by exact use) (by exact right)]
        exact ⟨⟨keys, cipher, rfl⟩, rfl, rfl, .inl rfl⟩
    | checksResult =>
      obtain ⟨active, flight⟩ := use
      obtain ⟨f, flight⟩ := Option.ne_none_iff_exists'.1 flight
      have read := sound.validate_ok flight body (InFlight.elapsed f now)
      rw [handle_checksResult active flight read,
        handle_checksResult (by exact active) (by exact flight) (by exact read)]
      exact ⟨⟨keys, cipher, rfl⟩, rfl, rfl, .inl rfl⟩
    | memoryResult => exact absurd use id
  · rw [handle_of_not_awaits use, handle_of_not_awaits (by exact use)]
    exact ⟨⟨keys, cipher, rfl⟩, rfl, rfl, .inl rfl⟩

/-- **Payloads that open to the same come to the same under all keys.** -/
theorem Sound.sameButKeys_receive (sound : s.Sound engine) (h : s.SameButKeys s')
    (inbound outbound : Key) {payload payload' : Bytes} {now : Nat}
    (same : s.opens (.receive payload now) = s'.opens (.receive payload' now)) :
    Sight.SameButKeys engine.catalog
      ⟨s.call engine (.receive payload now), s.said engine (.receive payload now)⟩
      ⟨s'.call (engine.withKeys inbound outbound) (.receive payload' now),
        s'.said (engine.withKeys inbound outbound) (.receive payload' now)⟩ := by
  have alike := h.hearing payload payload'
  rw [said, said, ← same, h.said]
  generalize message : s.opens (.receive payload now) = m at same
  cases spoken m with
  | nil =>
    rw [call_receive_nil _ message, call_receive_nil _ same.symm]
    exact ⟨alike, rfl, rfl, .inl rfl⟩
  | unknown unknown =>
    rw [call_receive_unknown _ message unknown, call_receive_unknown _ same.symm unknown]
    exact ⟨alike, rfl, rfl, .inl rfl⟩
  | opcode opcode =>
    rw [call_receive _ message, call_receive _ same.symm]
    exact (sound.hearing payload).sameButKeys_handle alike inbound outbound _ _ _ _

/-! ### Time -/

/-- The next challenge fails alike under all keys, or is the same but for the mask. It leaves the
same seeds. -/
theorem Sound.veiled_nextChallenge (sound : s.Sound engine) (h : s.SameButKeys s')
    (inbound outbound : Key) (seeds : SeedStream) :
    (∃ fault later, s.nextChallenge engine seeds = (.error fault, later) ∧
      s'.nextChallenge (engine.withKeys inbound outbound) seeds = (.error fault, later)) ∨
    ∃ ids p p' later, s.nextChallenge engine seeds = (.ok ⟨p, ids⟩, later) ∧
      s'.nextChallenge (engine.withKeys inbound outbound) seeds = (.ok ⟨p', ids⟩, later) ∧
      Challenge.Veiled (engine.catalog.found s.build ids) s.keys.tagMask s'.keys.tagMask p p' := by
  obtain ⟨keys, cipher, rfl⟩ := h
  rcases Challenge.veiled_ofSelection sound.selection_of s.keys.tagMask keys.tagMask seeds with
    fails | ⟨p, p', later, built, built', veiled⟩
  · exact .inl fails
  · exact .inr ⟨_, p, p', later, built, built', veiled⟩

/-- **As time goes by, the same happens under all keys.** -/
theorem Sound.sameButKeys_tick (sound : s.Sound engine) (h : s.SameButKeys s')
    (inbound outbound : Key) (now : Nat) (seeds : SeedStream) :
    Sight.SameButKeys engine.catalog
      ⟨s.call engine (.tick now seeds), s.said engine (.tick now seeds)⟩
      ⟨s'.call (engine.withKeys inbound outbound) (.tick now seeds),
        s'.said (engine.withKeys inbound outbound) (.tick now seeds)⟩ := by
  have challenge := sound.veiled_nextChallenge h inbound outbound seeds
  obtain ⟨keys, cipher, rfl⟩ := h
  -- likewise for what is due or late, which times tell
  by_cases due : s.Due engine now
  · rw [call_eq_of_due due, call_eq_of_due (by exact due), said, said, if_pos due,
      if_pos (by exact due)]
    rcases challenge with
      ⟨fault, later, broken, broken'⟩ | ⟨ids, p, p', later, built, built', veiled⟩
    · rw [broken, broken']
      exact ⟨⟨keys, cipher, rfl⟩, rfl, rfl, .inl rfl⟩
    · rw [built, built']
      refine ⟨⟨keys, _, rfl⟩, ?_, rfl, .inr ⟨_, _, p, p', rfl, rfl, rfl, rfl, veiled⟩⟩
      simp [Except.map, Reply.blank, blankWire, veiled.length]
  · rw [said, said, if_neg due, if_neg (by exact due), Session.call, Session.call]
    by_cases late : ∃ f, s.Expired engine now f
    · obtain ⟨f, late⟩ := late
      rw [tick_of_expired late, tick_of_expired (by exact late)]
      exact ⟨⟨keys, cipher, rfl⟩, rfl, rfl, .inl rfl⟩
    · rw [not_exists] at late
      rw [tick_of_quiet due late, tick_of_quiet (by exact due) (by exact late)]
      exact ⟨⟨keys, cipher, rfl⟩, rfl, rfl, .inl rfl⟩

/-- As time goes by, the same seeds are taken under all keys. -/
theorem Sound.tick_snd_eq (sound : s.Sound engine) (h : s.SameButKeys s')
    (inbound outbound : Key) (now : Nat) (seeds : SeedStream) :
    (s.tick engine now seeds).2 = (s'.tick (engine.withKeys inbound outbound) now seeds).2 := by
  have challenge := sound.veiled_nextChallenge h inbound outbound seeds
  obtain ⟨keys, cipher, rfl⟩ := h
  by_cases due : s.Due engine now
  · rw [(tick_snd engine now seeds s).1 due, (tick_snd _ now seeds _).1 (by exact due)]
    rcases challenge with ⟨fault, later, broken, broken'⟩ | ⟨ids, p, p', later, built, built', -⟩
    · rw [broken, broken']
    · rw [built, built']
  · rw [(tick_snd engine now seeds s).2 due, (tick_snd _ now seeds _).2 (by exact due)]

/-! ### Rows of calls -/

/-- **Calls that tell the same come to the same under all keys.** -/
theorem Sound.sameButKeys_call (sound : s.Sound engine) (h : s.SameButKeys s')
    (inbound outbound : Key) {c c' : Call} (same : s.plain c = s'.plain c') :
    Sight.SameButKeys engine.catalog ⟨s.call engine c, s.said engine c⟩
      ⟨s'.call (engine.withKeys inbound outbound) c',
        s'.said (engine.withKeys inbound outbound) c'⟩ := by
  cases c with
  | receive payload now =>
    cases c' with
    | receive payload' now' =>
      obtain ⟨opened, rfl⟩ := Call.receive.inj same
      exact sound.sameButKeys_receive h inbound outbound opened
    | tick => cases same
  | tick now seeds =>
    cases c' with
    | receive => cases same
    | tick now' seeds' =>
      cases same
      exact sound.sameButKeys_tick h inbound outbound now seeds

/-- What two runs have in common that are told the same under different keys. -/
structure Indistinct (engine engine' : Engine) (s s' : Session) (client client' : CipherPair)
    (calls calls' : List Call) : Prop where
  /-- They lead to sessions that are the same but for their keys. -/
  session : (s.after engine calls).SameButKeys (s'.after engine' calls')
  /-- Call by call they show the same but for keys. -/
  sights : List.Forall₂ (Sight.SameButKeys engine.catalog) (s.sights engine client calls)
    (s'.sights engine' client' calls')
  /-- Whenever they are called next as time goes by, they leave the same seeds. -/
  seeds : ∀ now seeds, ((s.after engine calls).tick engine now seeds).2 =
    ((s'.after engine' calls').tick engine' now seeds).2

/-- **Runs that are told the same are indistinct under all keys.** -/
theorem Sound.indistinct (sound : s.Sound engine) (h : s.SameButKeys s') (inbound outbound : Key)
    {client client' : CipherPair} (mirrored : s.cipher.send = client.receive)
    (mirrored' : s'.cipher.send = client'.receive) {calls calls' : List Call}
    (same : s.heard engine calls = s'.heard (engine.withKeys inbound outbound) calls') :
    Indistinct engine (engine.withKeys inbound outbound) s s' client client' calls calls' := by
  suffices both : (s.after engine calls).SameButKeys
        (s'.after (engine.withKeys inbound outbound) calls') ∧
      List.Forall₂ (Sight.SameButKeys engine.catalog) (s.sights engine client calls)
        (s'.sights (engine.withKeys inbound outbound) client' calls') from
    ⟨both.1, both.2, (sound.after calls).tick_snd_eq both.1 inbound outbound⟩
  -- what the clients read is what the sessions say, and that does not need the clients
  rw [sights, sights, overheard_eq_saidIn mirrored, overheard_eq_saidIn mirrored']
  clear mirrored mirrored'
  induction calls generalizing s s' calls' with
  | nil =>
    cases calls' with
    | nil => exact ⟨h, .nil⟩
    | cons => cases same
  | cons c rest ih =>
    cases calls' with
    | nil => cases same
    | cons c' rest' =>
      obtain ⟨first, later⟩ := List.cons.inj same
      have here := sound.sameButKeys_call h inbound outbound first
      obtain ⟨session, sights⟩ := ih (sound.call c) here.session later
      exact ⟨session, .cons here sights⟩

/-- Every session can be told everything. -/
theorem exists_heard (engine : Engine) (s : Session) (told : List Call) :
    ∃ calls, s.heard engine calls = told := by
  induction told generalizing s with
  | nil => exact ⟨[], rfl⟩
  | cons c rest ih =>
    obtain ⟨call, plain⟩ : ∃ call, s.plain call = c := by
      cases c with
      | receive message now =>
        obtain ⟨payload, opened⟩ := s.exists_opens message now
        exact ⟨.receive payload now, by rw [plain, opened]⟩
      | tick now seeds => exact ⟨.tick now seeds, rfl⟩
    obtain ⟨calls, heard⟩ := ih (s.call engine call).session
    exact ⟨call :: calls, by rw [Session.heard, plain, heard]⟩

/-! ### Every run -/

/-- **Nothing that a session decides depends on its keys.** Two sessions are started at the same
time, for the same account and build and from the same seeds, with secrets that are not empty, under
engines that differ in the keys of the module at most. They announce the same module, leave the same
seeds, and the lines of their starts are the same above the level of debugging. Whatever is called
on the first one, the second one can be told the same, and whenever it is, the two do the same call
by call; their clients read the same but for the masks of challenges, and no line above the level of
debugging tells them apart. -/
theorem decisions_ignore_keys (engine : Engine) (inbound outbound : Key) (account : UInt32)
    (build : Build) {secret secret' : Bytes} (nonempty : secret ≠ []) (nonempty' : secret' ≠ [])
    (now : Nat) (seeds : SeedStream) :
    ∃ keys keys' wire wire' s s' later,
      Keys.derive? secret engine.image.secrets.seed = some keys ∧
      Keys.derive? secret' engine.image.secrets.seed = some keys' ∧
      start engine account build secret now seeds = (.ok (wire, s), later) ∧
      start (engine.withKeys inbound outbound) account build secret' now seeds =
        (.ok (wire', s'), later) ∧
      ((CipherPair.client keys).opened wire).1 = ((CipherPair.client keys').opened wire').1 ∧
      Event.linesAboveDebug (startEvents (.ok (wire, s))) =
        Event.linesAboveDebug (startEvents (.ok (wire', s'))) ∧
      s.SameButKeys s' ∧
      ∀ calls,
        (∃ calls', s.heard engine calls =
          s'.heard (engine.withKeys inbound outbound) calls') ∧
        ∀ calls', s.heard engine calls = s'.heard (engine.withKeys inbound outbound) calls' →
          Indistinct engine (engine.withKeys inbound outbound) s s'
            ((CipherPair.client keys).opened wire).2 ((CipherPair.client keys').opened wire').2
            calls calls' := by
  obtain ⟨wire, s, later, started⟩ := exists_start engine account build now seeds nonempty
  obtain ⟨wire', s', later', started'⟩ :=
    exists_start (engine.withKeys inbound outbound) account build now seeds nonempty'
  obtain rfl : later' = later := (seeds_of_start started').trans (seeds_of_start started).symm
  have sound := sound_of_start started
  obtain ⟨keys, derived, announced, fresh⟩ := start_eq_ok started
  obtain ⟨keys', derived', announced', fresh'⟩ := start_eq_ok started'
  have alike : s.SameButKeys s' := by
    rw [fresh, fresh']
    exact ⟨_, _, rfl⟩
  have mirrored : s.cipher.send = ((CipherPair.client keys).opened wire).2.receive := by
    rw [announced, fresh]
    simp [CipherPair.server, CipherPair.client]
  have mirrored' : s'.cipher.send = ((CipherPair.client keys').opened wire').2.receive := by
    rw [announced', fresh']
    simp [CipherPair.server, CipherPair.client]
  refine ⟨keys, keys', wire, wire', s, s', later', derived, derived', started, started', ?_, ?_,
    alike, fun calls => ⟨?_, fun calls' same => ?_⟩⟩
  · rw [announced, announced', CipherPair.opened_sealed (CipherPair.mirrors_keys keys).there,
      CipherPair.opened_sealed (CipherPair.mirrors_keys keys').there]
    rfl
  · rw [fresh, fresh']
    exact (Event.linesAboveDebug_concat [.sessionStarted account build] rfl).trans
      (Event.linesAboveDebug_concat [.sessionStarted account build] rfl).symm
  · obtain ⟨calls', heard⟩ :=
      exists_heard (engine.withKeys inbound outbound) s' (s.heard engine calls)
    exact ⟨calls', heard.symm⟩
  · exact sound.indistinct alike inbound outbound mirrored mirrored' same

/-- Two sessions with other secrets and other modules keys become active and ask the same. -/
theorem sample_decisions :
    ∃ wire wire' s s' later calls calls',
      start Engine.sample 7 5875 [0x5A, 0xA5] 100 (SeedStream.ofSeed 1) = (.ok (wire, s), later) ∧
      start (Engine.sample.withKeys (.replicate 16 0x66) (.replicate 16 0x77)) 7 5875 [0x01] 100
        (SeedStream.ofSeed 1) = (.ok (wire', s'), later) ∧
      calls.map Call.now = [200, 300, 30300] ∧
      (s.after Engine.sample calls).phase = .active ∧
      (s'.after (Engine.sample.withKeys (.replicate 16 0x66) (.replicate 16 0x77)) calls').phase =
        .active ∧
      (s'.after (Engine.sample.withKeys (.replicate 16 0x66) (.replicate 16 0x77))
        calls').inFlight = (s.after Engine.sample calls).inFlight := by
  obtain ⟨keys, keys', wire, wire', s, s', later, -, -, started, started', -, -, -, runs⟩ :=
    decisions_ignore_keys Engine.sample (.replicate 16 0x66) (.replicate 16 0x77) 7 5875
      (List.cons_ne_nil 0x5A [0xA5]) (List.cons_ne_nil 0x01 []) 100 (SeedStream.ofSeed 1)
  have waiting : s.phase = .awaitingModule := by
    obtain ⟨keys, -, -, rfl⟩ := start_eq_ok started
    rfl
  obtain ⟨load, prove, -, admits⟩ := s.exists_admits Engine.sample waiting 200 300
  let calls : List Call :=
    [.receive load 200, .receive prove 300, .tick 30300 (SeedStream.ofSeed 2)]
  obtain ⟨⟨calls', same⟩, indistinct⟩ := runs calls
  have active : (s.after Engine.sample calls).phase = .active :=
    (phase_call_of_final (.inl (active_of_admits admits)) _).trans (active_of_admits admits)
  obtain ⟨_, _, alike⟩ := (indistinct calls' same).session
  refine ⟨wire, wire', s, s', later, calls, calls', started, started', rfl, active, ?_, ?_⟩
  · rw [alike]
    exact active
  · rw [alike]

end Session

end Attest
