import Attest.Proofs.Session.Lockstep

/-!
# Phases and keys

The phase of a session depends on nothing but what its client says. `Engine.leads` is the table:
the phase that an opened message leads to. As the right answer to the seed is the one message that
changes the keys, the table tells which keys a session has:

* `Session.phase_call` : a call leads to the phase of the table;
* `Session.Keyed` : an active session has the keys of the module, any other those of the secret;
* `Session.keys_rotate_once` : **only the genuine module changes the keys, and only once**; a
  session that is active or rejected stays so for good.
-/

namespace Attest

open Wire (ClientOpcode)

/-- Whether a reply is a penalty for this reason. -/
def Reply.penalizes (reply : Reply) (reason : PenaltyReason) : Bool :=
  reply.penalty?.any (·.reason = reason)

namespace Session

/-- What a message can be: nothing, a byte that is no opcode and what follows it, or an opcode and
its body. -/
inductive Spoken : Bytes → Prop
  | nil : Spoken []
  | unknown {byte : UInt8} {body : Bytes} (h : ClientOpcode.ofByte? byte = none) :
      Spoken (byte :: body)
  | opcode {body : Bytes} (opcode : ClientOpcode) : Spoken (opcode.byte :: body)

theorem spoken (message : Bytes) : Spoken message := by
  cases message with
  | nil => exact .nil
  | cons byte body =>
    cases h : ClientOpcode.ofByte? byte with
    | none => exact .unknown h
    | some opcode =>
      rw [byte_eq_of_ofByte? h]
      exact .opcode opcode

end Session

namespace Engine

/-- The phase that a message with a known opcode leads to. -/
def leadsBy (engine : Engine) : Phase → ClientOpcode → Bytes → Phase
  | .awaitingModule, .moduleOk, _ => .awaitingHash
  | .awaitingHash, .moduleFailed, _ => .awaitingModule
  | .awaitingHash, .hashResult, body =>
    if engine.image.secrets.answer.toList <+: body then .active else .rejected
  | phase, _, _ => phase

/-- The phase that an opened message leads to. -/
def leads (engine : Engine) (phase : Phase) : Bytes → Phase
  | [] => phase
  | byte :: body =>
    match ClientOpcode.ofByte? byte with
    | none => phase
    | some opcode => engine.leadsBy phase opcode body

/-! ### The table -/

variable {engine : Engine} {phase : Phase} {byte : UInt8} {body : Bytes}

@[simp] theorem leads_nil : engine.leads phase [] = phase := rfl

theorem leads_unknown (h : ClientOpcode.ofByte? byte = none) :
    engine.leads phase (byte :: body) = phase := by
  simp only [leads, h]

@[simp] theorem leads_opcode (opcode : ClientOpcode) :
    engine.leads phase (opcode.byte :: body) = engine.leadsBy phase opcode body := by
  simp only [leads, ClientOpcode.ofByte?_byte]

/-- A session that is active or rejected is so for good. -/
theorem leads_of_final (h : phase = .active ∨ phase = .rejected) (message : Bytes) :
    engine.leads phase message = phase := by
  cases Session.spoken message with
  | nil => rfl
  | unknown hb => exact leads_unknown hb
  | opcode opcode =>
    rw [leads_opcode]
    rcases h with rfl | rfl <;> cases opcode <;> rfl

/-- A session becomes active by the right answer to the seed only. -/
theorem leads_eq_active_iff (h : phase ≠ .active) (message : Bytes) :
    engine.leads phase message = .active ↔ phase = .awaitingHash ∧ engine.proof <+: message := by
  cases Session.spoken message with
  | nil => simp [h, proof]
  | unknown hb =>
    simp [leads_unknown hb, h, proof, List.cons_prefix_cons,
      (Session.ne_byte_of_ofByte? hb _).symm]
  | opcode opcode =>
    rw [leads_opcode, proof, List.cons_prefix_cons]
    cases opcode <;> cases phase <;> simp [leadsBy, Session.byte_inj] at h ⊢

/-- A session asks the seed only when the module is loaded. -/
theorem leads_eq_awaitingHash_iff (h : phase ≠ .awaitingHash) (message : Bytes) :
    engine.leads phase message = .awaitingHash ↔
      phase = .awaitingModule ∧ ∃ body, message = ClientOpcode.moduleOk.byte :: body := by
  cases Session.spoken message with
  | nil => simp [h]
  | unknown hb => simp [leads_unknown hb, h, Session.ne_byte_of_ofByte? hb]
  | opcode opcode =>
    rw [leads_opcode]
    cases opcode <;> cases phase <;> simp [leadsBy, Session.byte_inj] at h ⊢

end Engine

namespace Session

variable {engine : Engine} {now : Nat} {s : Session}

@[simp] theorem phase_sending (s : Session) (messages : List Bytes) (log : List Event) :
    (s.sending messages log).session.phase = s.phase := by
  rw [sending_eq]

theorem leadsBy_of_not_awaits {opcode : ClientOpcode} (body : Bytes) (h : ¬ s.Awaits opcode) :
    engine.leadsBy s.phase opcode body = s.phase := by
  cases opcode <;> cases hp : s.phase <;> simp [Engine.leadsBy, hp, Awaits] at h ⊢

/-- Whatever a session makes of a message, it is in the phase of the table then. -/
theorem Received.phase {message : Bytes} {turn : Turn Reaction}
    (h : Received engine now s message turn) :
    turn.session.phase = engine.leads s.phase message := by
  cases h with
  | empty => rfl
  | unknown hb => rw [Engine.leads_unknown hb]
  | @refused opcode body hr =>
    rw [Engine.leads_opcode, leadsBy_of_not_awaits body hr]
    rfl
  | missing hp | loaded hp => simp [Engine.leadsBy, hp]
  | failed hp => rcases hp with hp | hp <;> simp [Engine.leadsBy, hp]
  | accepted hp right => simp [Engine.leadsBy, hp, right, admitted]
  | rejected hp wrong => simp [Engine.leadsBy, hp, wrong]
  | answered hp | desynced hp => simp [Engine.leadsBy, hp]

theorem Ticked.phase {seeds : SeedStream} {result : Turn Update × SeedStream}
    (h : Ticked engine now seeds s result) : result.1.session.phase = s.phase := by
  cases h <;> rfl

/-- A call leads to the phase that the table has for the opened message. -/
theorem phase_call (engine : Engine) (s : Session) (c : Call) :
    (s.call engine c).session.phase = engine.leads s.phase (s.opens c) := by
  cases c with
  | receive payload now => exact (received_receive engine payload now s).phase
  | tick now seeds =>
    rw [opens_tick]
    exact (ticked_tick engine now seeds s).phase

/-! ### Keys -/

/-- Whether a session has the keys that its phase asks for, `keys` being those of the secret. -/
def Keyed (engine : Engine) (keys : Keys) (s : Session) : Prop :=
  s.keys = if s.phase = .active then engine.moduleKeys else keys

theorem not_admits_of_final (h : s.phase = .active ∨ s.phase = .rejected) (message : Bytes) :
    ¬ s.Admits engine message := by
  rintro ⟨waiting, -⟩
  rw [waiting] at h
  rcases h with h | h <;> cases h

/-- A session that is not active is so after a call just if the call hands in the right answer. -/
theorem phase_call_eq_active_iff (h : s.phase ≠ .active) (c : Call) :
    (s.call engine c).session.phase = .active ↔ s.Admits engine (s.opens c) := by
  rw [phase_call, Engine.leads_eq_active_iff h, Admits]

theorem phase_call_of_final (h : s.phase = .active ∨ s.phase = .rejected) (c : Call) :
    (s.call engine c).session.phase = s.phase := by
  rw [phase_call, Engine.leads_of_final h]

theorem keys_call_of_not_admits {c : Call} (h : ¬ s.Admits engine (s.opens c)) :
    (s.call engine c).session.keys = s.keys := by
  rw [(sends_call engine s c).2, if_neg h]

theorem Keyed.call {keys : Keys} (h : s.Keyed engine keys)
    (seed : keys.seed = engine.image.secrets.seed) (c : Call) :
    (s.call engine c).session.Keyed engine keys := by
  unfold Keyed at h ⊢
  by_cases active : s.phase = .active
  · rw [phase_call_of_final (.inl active),
      keys_call_of_not_admits (not_admits_of_final (.inl active) _)]
    exact h
  · rw [if_neg active] at h
    by_cases admits : s.Admits engine (s.opens c)
    · rw [(sends_call engine s c).2, if_pos admits, h,
        if_pos ((phase_call_eq_active_iff active c).2 admits), Engine.rotated_eq_moduleKeys seed]
    · rw [keys_call_of_not_admits admits, h,
        if_neg (mt (phase_call_eq_active_iff active c).1 admits)]

theorem Keyed.after {keys : Keys} (h : s.Keyed engine keys)
    (seed : keys.seed = engine.image.secrets.seed) (calls : List Call) :
    (s.after engine calls).Keyed engine keys := by
  induction calls generalizing s with
  | nil => exact h
  | cons c rest ih => exact ih (h.call seed c)

/-! ### For good -/

theorem final_after (h : s.phase = .active ∨ s.phase = .rejected) (calls : List Call) :
    (s.after engine calls).phase = s.phase ∧ (s.after engine calls).keys = s.keys := by
  induction calls generalizing s with
  | nil => exact ⟨rfl, rfl⟩
  | cons c rest ih =>
    have phase : (s.call engine c).session.phase = s.phase := phase_call_of_final h c
    have keys : (s.call engine c).session.keys = s.keys :=
      keys_call_of_not_admits (not_admits_of_final h _)
    obtain ⟨phase', keys'⟩ := ih (s := (s.call engine c).session) (by rwa [phase])
    exact ⟨phase'.trans phase, keys'.trans keys⟩

/-- How often the keys change in a row of calls. -/
def rotations (engine : Engine) (s : Session) : List Call → Nat
  | [] => 0
  | c :: rest =>
    (if s.Admits engine (s.opens c) then 1 else 0) + rotations engine (s.call engine c).session rest

theorem rotations_of_final (h : s.phase = .active ∨ s.phase = .rejected) (calls : List Call) :
    s.rotations engine calls = 0 := by
  induction calls generalizing s with
  | nil => rfl
  | cons c rest ih =>
    have phase : (s.call engine c).session.phase = s.phase := phase_call_of_final h c
    rw [rotations, if_neg (not_admits_of_final h _), ih (by rwa [phase])]

/-- The keys change once, when the session becomes active. -/
theorem rotations_eq (h : s.phase ≠ .active) (calls : List Call) :
    s.rotations engine calls = if (s.after engine calls).phase = .active then 1 else 0 := by
  induction calls generalizing s with
  | nil => simp [rotations, after, h]
  | cons c rest ih =>
    by_cases admits : s.Admits engine (s.opens c)
    · have active := (phase_call_eq_active_iff h c).2 admits
      have later : ((s.call engine c).session.after engine rest).phase = _ :=
        (final_after (.inl active) rest).1
      rw [rotations, if_pos admits, rotations_of_final (.inl active), after, later, active]
      rfl
    · have still := mt (phase_call_eq_active_iff h c).1 admits
      rw [rotations, if_neg admits, ih still, Nat.zero_add, after]

/-! ### Refusals -/

/-- The answer to a challenge is never punished as that of a module that is not genuine. -/
theorem reason_of_judge {policy : Config.Penalties} {account : UInt32} {outcome : Outcome}
    {check : Option Check} {p : Penalty} (h : Penalty.judge policy account outcome check = some p) :
    p.reason ≠ .hashMismatch := by
  obtain ⟨reason, found, rfl⟩ := Option.map_eq_some_iff.1 h
  rintro rfl
  cases outcome with
  | checksumMismatch | malformed => cases found
  | decoded r =>
    cases failure : r.firstFailure? <;> simp [Penalty.reasonOf?, failure] at found

theorem penalizes_cycle (s : Session) (outcome : Outcome) :
    (Reply.reaction (.cycle (s.verdict engine outcome))).penalizes .hashMismatch = false := by
  cases judged : (s.verdict engine outcome).penalty with
  | none => simp [Reply.penalizes, Reply.penalty?, judged]
  | some p => simpa [Reply.penalizes, Reply.penalty?, judged] using reason_of_judge judged

/-- How many penalties for a module that is not genuine the result of a call holds. -/
def mismatches (result : Except Fault Reply) : Nat :=
  result.toOption.toList.countP (·.penalizes .hashMismatch)

theorem mismatches_sending (s : Session) (messages : List Bytes) (log : List Event) :
    mismatches ((s.sending messages log).map .reaction).result = 0 := by
  rw [sending_eq]
  rfl

/-- A module that is not genuine is punished when the session rejects it. -/
theorem Received.mismatches {message : Bytes} {turn : Turn Reaction}
    (h : Received engine now s message turn) :
    mismatches (turn.map .reaction).result =
      if s.phase ≠ .rejected ∧ turn.session.phase = .rejected then 1 else 0 := by
  cases h with
  | empty | unknown | refused =>
    rw [if_neg fun h => h.1 h.2]
    rfl
  | missing hp => simp [mismatches_sending, hp]
  | loaded | failed => simp [mismatches_sending]
  | accepted => simp [mismatches_sending, admitted]
  | rejected hp =>
    rw [if_pos ⟨by simp [hp], rfl⟩]
    rfl
  | answered hp =>
    rw [if_neg (by simp [hp])]
    simp [Session.mismatches, Turn.map, penalizes_cycle, Except.map, Except.toOption]
  | desynced hp =>
    rw [if_neg (by simp [hp])]
    rfl

theorem mismatches_call (engine : Engine) (s : Session) (c : Call) :
    mismatches (s.call engine c).result =
      if s.phase ≠ .rejected ∧ (s.call engine c).session.phase = .rejected then 1 else 0 := by
  cases c with
  | receive payload now => exact (received_receive engine payload now s).mismatches
  | tick now seeds =>
    have ticked := ticked_tick engine now seeds s
    have phase := ticked.phase
    rw [call, Turn.map_session, phase, if_neg fun h => h.1 h.2]
    generalize s.tick engine now seeds = result at ticked
    cases ticked <;> rfl

/-- A module that is not genuine is punished once, when the session rejects it. -/
theorem countP_mismatch_eq (s : Session) (calls : List Call) :
    (s.replies engine calls).countP (·.penalizes .hashMismatch) =
      if s.phase ≠ .rejected ∧ (s.after engine calls).phase = .rejected then 1 else 0 := by
  induction calls generalizing s with
  | nil => simp [replies, after]
  | cons c rest ih =>
    have first := mismatches_call engine s c
    rw [replies, List.countP_append, ih, after]
    change Session.mismatches _ + _ = _
    rw [first]
    by_cases rejected : (s.call engine c).session.phase = .rejected
    · have later : ((s.call engine c).session.after engine rest).phase = _ :=
        (final_after (.inr rejected) rest).1
      simp [rejected, later]
    · have before : s.phase ≠ .rejected := by
        intro h
        exact rejected ((phase_call_of_final (.inr h) c).trans h)
      simp [rejected, before]

/-! ### What a call may do -/

theorem call_hashResult_wrong {payload body : Bytes} (waiting : s.phase = .awaitingHash)
    (said : s.opens (.receive payload now) = ClientOpcode.hashResult.byte :: body)
    (wrong : ¬ engine.image.secrets.answer.toList <+: body) :
    (s.call engine (.receive payload now)).result =
        .ok (.reaction (.penalty
          (Penalty.decide engine.config.penalties s.account .hashMismatch none))) ∧
      (s.call engine (.receive payload now)).session.phase = .rejected := by
  rw [call_receive engine said, handle_hashResult_wrong (s := s.hearing payload) waiting wrong]
  exact ⟨rfl, rfl⟩

/-- What the right answer to the seed comes to. -/
theorem call_of_admits {payload : Bytes}
    (admits : s.Admits engine (s.opens (.receive payload now))) :
    s.call engine (.receive payload now) =
      (((s.hearing payload).admitted engine now).sending [engine.image.functions.message]
        [.hashAccepted s.account, .keysRotated (engine.rotated s.keys)]).map .reaction := by
  obtain ⟨waiting, rest, same⟩ := admits
  have said : s.opens (.receive payload now) =
      ClientOpcode.hashResult.byte :: (engine.image.secrets.answer.toList ++ rest) := same.symm
  rw [call_receive engine said,
    handle_hashResult (s := s.hearing payload) waiting (List.prefix_append _ _)]
  rfl

/-- The waiting for the first challenge begins with the right answer to the seed. -/
theorem waitingSince_of_admits {payload : Bytes}
    (admits : s.Admits engine (s.opens (.receive payload now))) :
    (s.call engine (.receive payload now)).session.waitingSince = now := by
  rw [call_of_admits admits, sending_eq]
  rfl

theorem inFlight_of_admits {payload : Bytes}
    (admits : s.Admits engine (s.opens (.receive payload now))) :
    (s.call engine (.receive payload now)).session.inFlight = s.inFlight := by
  rw [call_of_admits admits, sending_eq]
  rfl

/-- The session is active then. -/
theorem active_of_admits {c : Call} (admits : s.Admits engine (s.opens c)) :
    (s.call engine c).session.phase = .active :=
  (phase_call_eq_active_iff (by rw [admits.1]; decide) c).2 admits

/-- A rejected session takes no payload. -/
theorem result_receive_of_rejected (h : s.phase = .rejected) (payload : Bytes) (now : Nat) :
    ∃ fault, (s.call engine (.receive payload now)).result = .error fault := by
  have rejected : (s.hearing payload).phase = .rejected := h
  have received := received_receive engine payload now s
  rw [call]
  generalize s.receive engine payload now = turn at received
  generalize (s.cipher.opened payload).1 = message at received
  cases received with
  | empty | unknown | refused | desynced => exact ⟨_, rfl⟩
  | missing hp | loaded hp | accepted hp | rejected hp | answered hp =>
    rw [rejected] at hp
    cases hp
  | failed hp =>
    rw [rejected] at hp
    rcases hp with hp | hp <;> cases hp

/-- A session that is not active does nothing as time goes by. -/
theorem result_tick_of_not_active (h : s.phase ≠ .active) (now : Nat) (seeds : SeedStream) :
    (s.call engine (.tick now seeds)).result = .ok (.update .idle) := by
  have ticked := ticked_tick engine now seeds s
  rw [call]
  generalize s.tick engine now seeds = result at ticked
  cases ticked with
  | idle => rfl
  | expired late => exact absurd late.1 h
  | challenged due | unbuilt due => exact absurd due.1 h

/-- What a call may do to the phase and the keys of a session. -/
structure Guarded (engine : Engine) (s : Session) (c : Call) : Prop where
  /-- A session becomes active by the right answer to the seed, when it is asked for, and by nothing
  else. -/
  activates : s.phase ≠ .active → ((s.call engine c).session.phase = .active ↔
    ∃ payload now, c = .receive payload now ∧ s.phase = .awaitingHash ∧
      engine.proof <+: s.opens c)
  /-- Any other answer is punished, and the session rejects the client. -/
  rejects : ∀ payload now body, c = .receive payload now → s.phase = .awaitingHash →
    s.opens c = ClientOpcode.hashResult.byte :: body → ¬ engine.proof <+: s.opens c →
    (s.call engine c).result = .ok (.reaction (.penalty
        (Penalty.decide engine.config.penalties s.account .hashMismatch none))) ∧
      (s.call engine c).session.phase = .rejected
  /-- The seed is asked of a client that says that it has loaded the announced module, and of no
  other. -/
  asks : s.phase ≠ .awaitingHash → ((s.call engine c).session.phase = .awaitingHash ↔
    ∃ payload now body, c = .receive payload now ∧ s.phase = .awaitingModule ∧
      s.opens c = ClientOpcode.moduleOk.byte :: body)
  /-- An active session stays active. -/
  active : s.phase = .active →
    (s.call engine c).session.phase = .active ∧ (s.call engine c).session.keys = s.keys
  /-- A rejected session stays rejected, takes no payload and sends nothing. -/
  rejected : s.phase = .rejected →
    (s.call engine c).session.phase = .rejected ∧ (s.call engine c).session.keys = s.keys ∧
      (∀ payload now, c = .receive payload now → ∃ fault, (s.call engine c).result = .error fault) ∧
      ∀ now seeds, c = .tick now seeds → (s.call engine c).result = .ok (.update .idle)

theorem exists_receive_of_admits {c : Call} (h : s.Admits engine (s.opens c)) :
    ∃ payload now, c = .receive payload now := by
  cases c with
  | receive payload now => exact ⟨payload, now, rfl⟩
  | tick now seeds => exact absurd h (not_admits_tick engine s now seeds)

/-- Every call keeps to this. -/
theorem guarded (engine : Engine) (s : Session) (c : Call) : s.Guarded engine c where
  activates h := by
    rw [phase_call_eq_active_iff h]
    constructor
    · intro admits
      obtain ⟨payload, now, rfl⟩ := exists_receive_of_admits admits
      exact ⟨payload, now, rfl, admits⟩
    · rintro ⟨payload, now, -, admits⟩
      exact admits
  rejects := by
    rintro payload now body rfl waiting said wrong
    rw [said, Engine.proof, List.cons_prefix_cons] at wrong
    exact call_hashResult_wrong waiting said fun right => wrong ⟨rfl, right⟩
  asks h := by
    rw [phase_call, Engine.leads_eq_awaitingHash_iff h]
    constructor
    · rintro ⟨waiting, body, said⟩
      cases c with
      | receive payload now => exact ⟨payload, now, body, rfl, waiting, said⟩
      | tick now seeds =>
        rw [opens_tick] at said
        cases said
    · rintro ⟨payload, now, body, -, waiting, said⟩
      exact ⟨waiting, body, said⟩
  active h := by
    refine ⟨(phase_call_of_final (.inl h) c).trans h, ?_⟩
    exact keys_call_of_not_admits (not_admits_of_final (.inl h) _)
  rejected h := by
    refine ⟨(phase_call_of_final (.inr h) c).trans h,
      keys_call_of_not_admits (not_admits_of_final (.inr h) _), ?_, ?_⟩
    · rintro payload now rfl
      exact result_receive_of_rejected h payload now
    · rintro now seeds rfl
      exact result_tick_of_not_active (by simp [h]) now seeds

/-- **The keys change once, and only for the genuine module.** Whatever is called after a start, the
session has the keys of the module if it is active and those of the secret if it is not; the keys
have changed once if it is active, and one penalty was given to the module if it is rejected. Each
further call is guarded, and no row of calls leads an active or a rejected session elsewhere. -/
theorem keys_rotate_once {engine : Engine} {account : UInt32} {build : Build} {secret : Bytes}
    {now : Nat} {seeds later : SeedStream} {wire : Bytes} {s : Session}
    (started : start engine account build secret now seeds = (.ok (wire, s), later)) :
    ∃ keys, Keys.derive? secret engine.image.secrets.seed = some keys ∧ ∀ calls,
      (s.after engine calls).Keyed engine keys ∧
      s.rotations engine calls = (if (s.after engine calls).phase = .active then 1 else 0) ∧
      (s.replies engine calls).countP (·.penalizes .hashMismatch) =
        (if (s.after engine calls).phase = .rejected then 1 else 0) ∧
      (∀ c, (s.after engine calls).Guarded engine c) ∧
      ((s.after engine calls).phase = .active ∨ (s.after engine calls).phase = .rejected →
        ∀ more, ((s.after engine calls).after engine more).phase = (s.after engine calls).phase ∧
          ((s.after engine calls).after engine more).keys = (s.after engine calls).keys) := by
  obtain ⟨keys, derived, -, rfl⟩ := start_eq_ok started
  refine ⟨keys, derived, fun calls => ⟨?_, ?_, ?_, fun c => guarded engine _ c, ?_⟩⟩
  · refine Keyed.after ?_ (Keys.seed_of_derive? derived) calls
    rfl
  · refine rotations_eq ?_ calls
    exact nofun
  · rw [countP_mismatch_eq]
    simp [initial]
  · exact fun final more => final_after final more

/-- A client that proves the module has its keys from then on; one that gives an empty answer
instead is punished once, and keeps the keys of the secret. -/
theorem sample_keys_rotate :
    ∃ wire s later keys load prove lie,
      start Engine.sample 7 5875 [0x5A, 0xA5] 100 (SeedStream.ofSeed 1) = (.ok (wire, s), later) ∧
      Keys.derive? [0x5A, 0xA5] Engine.sample.image.secrets.seed = some keys ∧
      s.rotations Engine.sample [.receive load 200, .receive prove 300] = 1 ∧
      (∀ more, ((s.after Engine.sample [.receive load 200, .receive prove 300]).after
        Engine.sample more).keys = Engine.sample.moduleKeys) ∧
      (s.after Engine.sample [.receive load 200, .receive lie 300]).phase = .rejected ∧
      (s.after Engine.sample [.receive load 200, .receive lie 300]).keys = keys ∧
      (s.replies Engine.sample [.receive load 200, .receive lie 300]).countP
        (·.penalizes .hashMismatch) = 1 := by
  obtain ⟨wire, s, later, started⟩ :=
    exists_start Engine.sample 7 5875 100 (SeedStream.ofSeed 1) (List.cons_ne_nil _ _)
  obtain ⟨keys, derived, runs⟩ := keys_rotate_once started
  obtain ⟨load, prove, -, admits⟩ := exists_admits Engine.sample (stocks_of_start started).1 200 300
  let t := (s.call Engine.sample (.receive load 200)).session
  obtain ⟨lie, said⟩ := t.exists_opens [ClientOpcode.hashResult.byte] 300
  have active : (s.after Engine.sample [.receive load 200, .receive prove 300]).phase = .active :=
    active_of_admits admits
  have rejected : (s.after Engine.sample [.receive load 200, .receive lie 300]).phase = .rejected :=
    (@call_hashResult_wrong Engine.sample _ t _ _ admits.1 said (by decide)).2
  obtain ⟨keyed, once, -, -, final⟩ := runs [.receive load 200, .receive prove 300]
  obtain ⟨keyed', -, punished, -, -⟩ := runs [.receive load 200, .receive lie 300]
  refine ⟨wire, s, later, keys, load, prove, lie, started, derived, ?_, fun more => ?_, rejected,
    ?_, ?_⟩
  · rw [once, if_pos active]
  · rw [(final (.inl active) more).2, keyed, if_pos active]
  · rw [keyed', if_neg (by simp [rejected])]
  · rw [punished, if_pos rejected]

end Session

end Attest
