import Attest.Proofs.Catalog
import Attest.Proofs.Session.Step

/-!
# Ciphers in lockstep

The two ciphers of a session go through two epochs: under the keys of the secret, and, from the
right answer to the seed on, under the keys of the module. `Epoch` counts the bytes of each
direction since the keys were set. `Session.ciphers_in_lockstep` says that after every row of
calls, whatever the payloads are and whether the calls succeed, the ciphers are those of the epoch
moved on by just these counts, so a client that opens what it is sent in order, and changes keys
when its answer is accepted, reads each message.

The messages are told apart from their sealing by `Session.said`: it lists what a call has to say
in plain, and `Session.Received.replies` and `Session.Ticked.sends` show that just this is sealed.
-/

namespace Attest

open Wire (ClientOpcode)

/-- The keys of the module, with the seed that it is asked. -/
def Engine.moduleKeys (engine : Engine) : Keys :=
  ⟨engine.image.secrets.inbound, engine.image.secrets.outbound, engine.image.secrets.seed⟩

theorem Engine.rotated_eq_moduleKeys {engine : Engine} {keys : Keys}
    (h : keys.seed = engine.image.secrets.seed) : engine.rotated keys = engine.moduleKeys := by
  rw [rotated, Keys.rotate, moduleKeys, h]

/-- Derived keys hold the seed that they are derived with. -/
theorem Keys.seed_of_derive? {secret : Bytes} {seed : Key} {keys : Keys}
    (h : derive? secret seed = some keys) : keys.seed = seed := by
  unfold derive? at h
  split at h
  · cases h
  · cases h
    rfl

/-- Whether a turn sends just these messages, sealed by this pair. -/
structure Turn.Sends (turn : Turn Reply) (pair : CipherPair) (messages : List Bytes) : Prop where
  wires : turn.wires = (pair.sealedAll messages).1
  cipher : turn.session.cipher = (pair.sealedAll messages).2

theorem Turn.Sends.length {turn : Turn Reply} {pair : CipherPair} {messages : List Bytes}
    (h : turn.Sends pair messages) : turn.wires.flatten.length = messages.flatten.length := by
  rw [h.wires, CipherPair.length_flatten_sealedAll]

namespace Session

/-! ### Plain messages -/

/-- Whether a message is the right answer to the seed, at the time when it is asked for. -/
def Admits (engine : Engine) (s : Session) (message : Bytes) : Prop :=
  s.phase = .awaitingHash ∧ engine.proof <+: message

instance (engine : Engine) (s : Session) (message : Bytes) :
    Decidable (s.Admits engine message) :=
  inferInstanceAs (Decidable (_ ∧ _))

instance (engine : Engine) (now : Nat) (s : Session) : Decidable (s.Due engine now) :=
  inferInstanceAs (Decidable (_ ∧ _ ∧ _))

/-- The message that a call hands in, opened; it is empty if time has gone by only. -/
def opens (s : Session) (c : Call) : Bytes :=
  (s.cipher.opened c.payload).1

/-- A payload is handled as the message that it opens to. -/
theorem call_receive (engine : Engine) {s : Session} {payload body : Bytes} {now : Nat}
    {opcode : ClientOpcode} (h : s.opens (.receive payload now) = opcode.byte :: body) :
    s.call engine (.receive payload now) =
      ((s.hearing payload).handle engine opcode body now).map .reaction := by
  have opened : s.opened payload = (opcode.byte :: body, s.hearing payload) := by
    rw [← h]
    rfl
  rw [call, receive, opened]
  simp only [ClientOpcode.ofByte?_byte]

/-- An empty payload comes to nothing. -/
theorem call_receive_nil (engine : Engine) {s : Session} {payload : Bytes} {now : Nat}
    (h : s.opens (.receive payload now) = []) :
    s.call engine (.receive payload now) =
      ⟨.error (.truncated ⟨1, 0⟩), s.hearing payload, []⟩ := by
  have opened : s.opened payload = ([], s.hearing payload) := by
    rw [← h]
    rfl
  rw [call, receive, opened]
  rfl

/-- So does a message whose first byte is no opcode. -/
theorem call_receive_unknown (engine : Engine) {s : Session} {payload body : Bytes} {now : Nat}
    {byte : UInt8} (h : s.opens (.receive payload now) = byte :: body)
    (unknown : ClientOpcode.ofByte? byte = none) :
    s.call engine (.receive payload now) =
      ⟨.error (.unknownOpcode byte), s.hearing payload, []⟩ := by
  have opened : s.opened payload = (byte :: body, s.hearing payload) := by
    rw [← h]
    rfl
  rw [call, receive, opened]
  simp only [unknown]
  rfl

/-- Every message can be handed in. -/
theorem exists_opens (s : Session) (message : Bytes) (now : Nat) :
    ∃ payload, s.opens (.receive payload now) = message := by
  refine ⟨(s.cipher.receive.apply message).1, ?_⟩
  simp [opens, CipherPair.opened, Call.payload]

/-- Every client can load the module and prove it. -/
theorem exists_admits (engine : Engine) {s : Session} (waiting : s.phase = .awaitingModule)
    (t₁ t₂ : Nat) :
    ∃ load prove, s.opens (.receive load t₁) = [ClientOpcode.moduleOk.byte] ∧
      (s.call engine (.receive load t₁)).session.Admits engine
        ((s.call engine (.receive load t₁)).session.opens (.receive prove t₂)) := by
  obtain ⟨load, loaded⟩ := s.exists_opens [ClientOpcode.moduleOk.byte] t₁
  obtain ⟨prove, proven⟩ :=
    (s.call engine (.receive load t₁)).session.exists_opens engine.proof t₂
  refine ⟨load, prove, loaded, ?_, proven ▸ List.prefix_rfl⟩
  rw [call_receive engine loaded, handle_moduleOk (s := s.hearing load) waiting, sending_eq]
  rfl

/-- What the session says to an opened message. -/
def saidTo (engine : Engine) (s : Session) : Bytes → List Bytes
  | [] => []
  | byte :: body =>
    match ClientOpcode.ofByte? byte, s.phase with
    | some .moduleMissing, .awaitingModule => ModuleImage.chunkMessages engine.image.blob
    | some .moduleOk, .awaitingModule => [ModuleImage.hashRequest engine.image.secrets.seed]
    | some .moduleFailed, .awaitingModule => [engine.image.announcement.message]
    | some .moduleFailed, .awaitingHash => [engine.image.announcement.message]
    | some .hashResult, .awaitingHash =>
      if engine.image.secrets.answer.toList <+: body then [engine.image.functions.message] else []
    | _, _ => []

/-- What the session says at a call: its messages before they are sealed. -/
def said (engine : Engine) (s : Session) : Call → List Bytes
  | .receive payload now => s.saidTo engine (s.opens (.receive payload now))
  | .tick now seeds =>
    if s.Due engine now then
      match (s.nextChallenge engine seeds).1 with
      | .ok c => [c.payload]
      | .error _ => []
    else []

/-- The ciphers that seal the reply to an opened message. -/
def speaker (engine : Engine) (s : Session) (message : Bytes) : CipherPair :=
  if s.Admits engine message then CipherPair.server (engine.rotated s.keys) else s.cipher

theorem not_admits_nil (engine : Engine) (s : Session) : ¬ s.Admits engine [] :=
  fun h => by simpa [Engine.proof] using h.2

theorem not_admits_of_ne {engine : Engine} {s : Session} {byte : UInt8} (body : Bytes)
    (h : byte ≠ ClientOpcode.hashResult.byte) : ¬ s.Admits engine (byte :: body) := by
  rintro ⟨-, hp⟩
  exact h (List.cons_prefix_cons.1 hp).1.symm

theorem admits_hashResult_iff {engine : Engine} {s : Session} {body : Bytes} :
    s.Admits engine (ClientOpcode.hashResult.byte :: body) ↔
      s.phase = .awaitingHash ∧ engine.image.secrets.answer.toList <+: body := by
  rw [Admits, Engine.proof, List.cons_prefix_cons]
  simp

theorem not_admits_of_not_awaits {engine : Engine} {s : Session} {opcode : ClientOpcode}
    (body : Bytes) (h : ¬ s.Awaits opcode) : ¬ s.Admits engine (opcode.byte :: body) := by
  cases opcode with
  | hashResult => exact fun ha => h (admits_hashResult_iff.1 ha).1
  | _ => exact not_admits_of_ne body (by decide)

/-- To the right answer to the seed a session says the functions of the module. -/
theorem saidTo_of_admits {engine : Engine} {s : Session} {message : Bytes}
    (admits : s.Admits engine message) :
    s.saidTo engine message = [engine.image.functions.message] := by
  obtain ⟨waiting, rest, rfl⟩ := admits
  rw [Engine.proof, List.cons_append]
  simp [saidTo, waiting]

theorem saidTo_of_not_awaits {engine : Engine} {s : Session} {opcode : ClientOpcode}
    (body : Bytes) (h : ¬ s.Awaits opcode) : s.saidTo engine (opcode.byte :: body) = [] := by
  cases opcode <;> cases hp : s.phase <;> simp [saidTo, hp, Awaits] at h ⊢

theorem sends_nil {turn : Turn Reply} {pair : CipherPair} (wires : turn.wires = [])
    (cipher : turn.session.cipher = pair) : turn.Sends pair [] :=
  ⟨wires, cipher⟩

theorem sends_sending (s : Session) (messages : List Bytes) (log : List Event) :
    ((s.sending messages log).map .reaction).Sends s.cipher messages := by
  rw [sending_eq]
  exact ⟨rfl, rfl⟩

@[simp] theorem keys_sending (s : Session) (messages : List Bytes) (log : List Event) :
    (s.sending messages log).session.keys = s.keys := by
  rw [sending_eq]

/-- What a turn makes of a message: it sends what the session says to it, sealed by the ciphers
that speak then, and the keys change at the right answer to the seed and at no other message. -/
structure Replies (engine : Engine) (s : Session) (message : Bytes) (turn : Turn Reply) :
    Prop where
  sends : turn.Sends (s.speaker engine message) (s.saidTo engine message)
  keys : turn.session.keys = if s.Admits engine message then engine.rotated s.keys else s.keys

theorem replies_of_not_admits {engine : Engine} {s : Session} {message : Bytes}
    {turn : Turn Reply} {messages : List Bytes} (quiet : ¬ s.Admits engine message)
    (said : s.saidTo engine message = messages) (sends : turn.Sends s.cipher messages)
    (keys : turn.session.keys = s.keys) : Replies engine s message turn := by
  refine ⟨?_, ?_⟩
  · rwa [speaker, if_neg quiet, said]
  · rwa [if_neg quiet]

theorem Received.replies {engine : Engine} {now : Nat} {s : Session} {message : Bytes}
    {turn : Turn Reaction} (h : Received engine now s message turn) :
    Replies engine s message (turn.map .reaction) := by
  cases h with
  | empty => exact replies_of_not_admits (not_admits_nil engine s) rfl (sends_nil rfl rfl) rfl
  | @unknown byte body hb =>
    have quiet : ¬ s.Admits engine (byte :: body) :=
      not_admits_of_ne body (ne_byte_of_ofByte? hb _)
    exact replies_of_not_admits quiet (by simp [saidTo, hb]) (sends_nil rfl rfl) rfl
  | @refused opcode body hr =>
    exact replies_of_not_admits (not_admits_of_not_awaits body hr) (saidTo_of_not_awaits body hr)
      (sends_nil rfl rfl) rfl
  | @missing body hp =>
    exact replies_of_not_admits (not_admits_of_ne body (by decide)) (by simp [saidTo, hp])
      (sends_sending s _ _) (by rw [Turn.map_session, keys_sending])
  | @loaded body hp =>
    exact replies_of_not_admits (not_admits_of_ne body (by decide)) (by simp [saidTo, hp])
      (sends_sending _ _ _) (by rw [Turn.map_session, keys_sending])
  | @failed body hp =>
    have said : s.saidTo engine (ClientOpcode.moduleFailed.byte :: body) =
        [engine.image.announcement.message] := by
      rcases hp with hp | hp <;> simp [saidTo, hp]
    exact replies_of_not_admits (not_admits_of_ne body (by decide)) said
      (sends_sending _ _ _) (by rw [Turn.map_session, keys_sending])
  | @accepted body hp right =>
    have admits : s.Admits engine (ClientOpcode.hashResult.byte :: body) :=
      admits_hashResult_iff.2 ⟨hp, right⟩
    refine ⟨?_, ?_⟩
    · rw [speaker, if_pos admits, saidTo_of_admits admits]
      exact sends_sending (s.admitted engine now) _ _
    · rw [if_pos admits, Turn.map_session, keys_sending, admitted]
  | @rejected body hp wrong =>
    have quiet : ¬ s.Admits engine (ClientOpcode.hashResult.byte :: body) :=
      fun h => wrong (admits_hashResult_iff.1 h).2
    exact replies_of_not_admits quiet (by simp [saidTo, hp, wrong]) (sends_nil rfl rfl) rfl
  | @answered body f examination hp flight read =>
    exact replies_of_not_admits (not_admits_of_ne body (by decide)) (by simp [saidTo, hp])
      (sends_nil rfl rfl) rfl
  | @desynced body f fault hp flight lost =>
    exact replies_of_not_admits (not_admits_of_ne body (by decide)) (by simp [saidTo, hp])
      (sends_nil rfl rfl) rfl

/-- What a session sends as time goes by is what it says then, sealed; the keys stay. -/
theorem Ticked.sends {engine : Engine} {now : Nat} {seeds : SeedStream} {s : Session}
    {result : Turn Update × SeedStream} (h : Ticked engine now seeds s result) :
    (result.1.map .update).Sends s.cipher (s.said engine (.tick now seeds)) ∧
      result.1.session.keys = s.keys := by
  cases h with
  | idle due late =>
    rw [said, if_neg due]
    exact ⟨sends_nil rfl rfl, rfl⟩
  | expired late =>
    rw [said, if_neg (not_due_of_expired late)]
    exact ⟨sends_nil rfl rfl, rfl⟩
  | challenged due built =>
    rw [said, if_pos due, built]
    exact ⟨⟨rfl, rfl⟩, rfl⟩
  | unbuilt due broken =>
    rw [said, if_pos due, broken]
    exact ⟨sends_nil rfl rfl, rfl⟩

/-! ### Calls -/

@[simp] theorem opens_tick (s : Session) (now : Nat) (seeds : SeedStream) :
    s.opens (.tick now seeds) = [] := by
  simp [opens, Call.payload, CipherPair.opened, Rc4.apply_eq, Bytes.xor]

theorem not_admits_tick (engine : Engine) (s : Session) (now : Nat) (seeds : SeedStream) :
    ¬ s.Admits engine (s.opens (.tick now seeds)) := by
  rw [opens_tick]
  exact not_admits_nil engine s

/-- The ciphers that seal what a call sends. -/
def speaking (engine : Engine) (s : Session) (c : Call) : CipherPair :=
  if s.Admits engine (s.opens c) then CipherPair.server (engine.rotated s.keys)
  else (s.cipher.opened c.payload).2

/-- A call sends what it has to say, sealed by the ciphers that have opened its payload or, at the
right answer to the seed, by those of the new keys. -/
theorem sends_call (engine : Engine) (s : Session) (c : Call) :
    (s.call engine c).Sends (s.speaking engine c) (s.said engine c) ∧
      (s.call engine c).session.keys =
        if s.Admits engine (s.opens c) then engine.rotated s.keys else s.keys := by
  cases c with
  | receive payload now =>
    have replies := (received_receive engine payload now s).replies
    exact ⟨replies.sends, replies.keys⟩
  | tick now seeds =>
    obtain ⟨sends, keys⟩ := (ticked_tick engine now seeds s).sends
    have quiet := not_admits_tick engine s now seeds
    rw [speaking, if_neg quiet, if_neg quiet]
    exact ⟨sends, keys⟩

/-! ### Epochs -/

/-- The bytes that went through the ciphers of a session since its keys were set. -/
structure Epoch where
  keys : Keys
  /-- How many bytes the client has handed in. -/
  received : Nat
  /-- How many bytes were sent to it. -/
  sent : Nat

/-- The ciphers of fresh keys, moved on by the bytes of the epoch. -/
def Epoch.ciphers (e : Epoch) : CipherPair where
  receive := (Rc4.ofKey e.keys.inbound.toList).advance e.received
  send := (Rc4.ofKey e.keys.outbound.toList).advance e.sent

/-- The epoch after a call. The right answer to the seed is counted in the old epoch, the reply to
it in the new one, whose keys are those of the module. -/
def Epoch.next (engine : Engine) (s : Session) (e : Epoch) (c : Call) : Epoch :=
  let sent := (s.call engine c).wires.flatten.length
  if s.Admits engine (s.opens c) then ⟨engine.moduleKeys, 0, sent⟩
  else ⟨e.keys, e.received + c.payload.length, e.sent + sent⟩

/-- The epoch after a row of calls. -/
def Epoch.along (engine : Engine) (s : Session) (e : Epoch) : List Call → Epoch
  | [] => e
  | c :: rest => Epoch.along engine (s.call engine c).session (e.next engine s c) rest

/-- Whether keys and ciphers of a session are those of an epoch. -/
structure InEpoch (s : Session) (e : Epoch) : Prop where
  keys : s.keys = e.keys
  cipher : s.cipher = e.ciphers

/-- The seed outlasts the keys that it was asked under. -/
theorem Epoch.seed_next {engine : Engine} {e : Epoch} (h : e.keys.seed = engine.image.secrets.seed)
    (s : Session) (c : Call) : (e.next engine s c).keys.seed = engine.image.secrets.seed := by
  rw [Epoch.next]
  split
  · rfl
  · exact h

theorem InEpoch.call {engine : Engine} {s : Session} {e : Epoch} (h : s.InEpoch e)
    (seed : e.keys.seed = engine.image.secrets.seed) (c : Call) :
    (s.call engine c).session.InEpoch (e.next engine s c) := by
  obtain ⟨sends, keys⟩ := sends_call engine s c
  have cipher := sends.cipher
  rw [CipherPair.sealedAll_eq_advance, ← sends.length, speaking] at cipher
  by_cases admits : s.Admits engine (s.opens c)
  -- the new ciphers have opened nothing, and sent the reply
  · rw [if_pos admits, h.keys, Engine.rotated_eq_moduleKeys seed] at keys cipher
    rw [Epoch.next, if_pos admits]
    exact ⟨keys, cipher⟩
  · rw [if_neg admits] at keys cipher
    rw [Epoch.next, if_neg admits]
    refine ⟨keys.trans h.keys, ?_⟩
    rw [cipher, CipherPair.opened_snd, h.cipher]
    simp only [Epoch.ciphers, Rc4.advance_add]

theorem InEpoch.after {engine : Engine} {s : Session} {e : Epoch} (h : s.InEpoch e)
    (seed : e.keys.seed = engine.image.secrets.seed) (calls : List Call) :
    (s.after engine calls).InEpoch (Epoch.along engine s e calls) := by
  induction calls generalizing s e with
  | nil => exact h
  | cons c rest ih => exact ih (h.call seed c) (Epoch.seed_next seed s c)

/-! ### The mirror -/

/-- What the session says in a row of calls. -/
def saidIn (engine : Engine) (s : Session) : List Call → List (List Bytes)
  | [] => []
  | c :: rest => s.said engine c :: saidIn engine (s.call engine c).session rest

/-- What a client reads in a row of calls that opens all it is sent in order, and changes to the
keys of the module when its answer to the seed was right. -/
def overheard (engine : Engine) (s : Session) (client : CipherPair) :
    List Call → List (List Bytes)
  | [] => []
  | c :: rest =>
    let client := if s.Admits engine (s.opens c) then CipherPair.client engine.moduleKeys
      else client
    let (messages, client) := client.openedAll (s.call engine c).wires
    messages :: overheard engine (s.call engine c).session client rest

theorem overheard_eq_saidIn {engine : Engine} {s : Session} {client : CipherPair}
    (h : s.cipher.send = client.receive) (calls : List Call) :
    overheard engine s client calls = saidIn engine s calls := by
  induction calls generalizing s client with
  | nil => rfl
  | cons c rest ih =>
    obtain ⟨sends, -⟩ := sends_call engine s c
    -- a client listens with fresh keys as early as the session speaks with them
    let listening := if s.Admits engine (s.opens c) then CipherPair.client engine.moduleKeys
      else client
    have step : (s.speaking engine c).send = listening.receive := by
      by_cases admits : s.Admits engine (s.opens c)
      · simp only [speaking, listening, admits, ↓reduceIte]
        rfl
      · simp [speaking, listening, admits, h]
    have reads : (listening.openedAll (s.call engine c).wires).1 = s.said engine c := by
      rw [sends.wires, CipherPair.openedAll_sealedAll step]
    have later : (s.call engine c).session.cipher.send =
        (listening.openedAll (s.call engine c).wires).2.receive := by
      rw [sends.wires, sends.cipher, CipherPair.send_sealedAll step]
    simp only [overheard, saidIn, List.cons.injEq]
    exact ⟨reads, ih later⟩

/-! ### Every run -/

/-- **The ciphers of a session stay in lockstep with its traffic.** Whatever is called after a
start, the keys are those of the epoch and the ciphers those of fresh keys moved on by the bytes
handed in and sent in the epoch; the epoch changes at the right answer to the seed alone, and from
then on the keys are those of the module. A client that mirrors the session reads the announcement
and then all that the session says. -/
theorem ciphers_in_lockstep {engine : Engine} {account : UInt32} {build : Build} {secret : Bytes}
    {now : Nat} {seeds later : SeedStream} {wire : Bytes} {s : Session}
    (started : start engine account build secret now seeds = (.ok (wire, s), later)) :
    ∃ keys, Keys.derive? secret engine.image.secrets.seed = some keys ∧
      ((CipherPair.client keys).opened wire).1 = engine.image.announcement.message ∧
      ∀ calls,
        (s.after engine calls).InEpoch (Epoch.along engine s ⟨keys, 0, wire.length⟩ calls) ∧
        overheard engine s ((CipherPair.client keys).opened wire).2 calls =
          saidIn engine s calls := by
  obtain ⟨keys, derived, rfl, rfl⟩ := start_eq_ok started
  have mirrored : (CipherPair.server keys).send = (CipherPair.client keys).receive := rfl
  refine ⟨keys, derived, CipherPair.opened_sealed mirrored _, fun calls => ⟨?_, ?_⟩⟩
  · refine InEpoch.after ⟨?_, ?_⟩ (Keys.seed_of_derive? derived) calls
    · rfl
    · simp [Epoch.ciphers, CipherPair.server]
  · refine overheard_eq_saidIn ?_ calls
    simp [mirrored]

end Session

/-- An engine with a check of each kind and a small module. -/
def Engine.sample : Engine where
  catalog := Catalog.sample
  image := {
    blob := [0x57, 0x4F, 0x57]
    key := .replicate 16 0x11
    secrets := ⟨.replicate 16 0x22, .replicate 16 0x33, .replicate 16 0x44, .replicate 20 0x55⟩
    functions := ⟨.replicate 4 0x00248460, 0x00419D40, 0x0046AE20⟩
    blob_ne_nil := by decide
    length_lt := by decide }
  config := {}

namespace Session

/-- A client loads the module and proves it: it is asked the seed under the keys of the secret, and
told the functions under those of the module, which have sealed nothing else. -/
theorem sample_in_lockstep :
    ∃ wire s later keys load prove,
      start Engine.sample 7 5875 [0x5A, 0xA5] 100 (SeedStream.ofSeed 1) = (.ok (wire, s), later) ∧
      Keys.derive? [0x5A, 0xA5] Engine.sample.image.secrets.seed = some keys ∧
      (s.after Engine.sample [.receive load 200, .receive prove 300]).InEpoch
        ⟨Engine.sample.moduleKeys, 0, Engine.sample.image.functions.message.length⟩ ∧
      overheard Engine.sample s ((CipherPair.client keys).opened wire).2
          [.receive load 200, .receive prove 300] =
        [[ModuleImage.hashRequest Engine.sample.image.secrets.seed],
          [Engine.sample.image.functions.message]] := by
  obtain ⟨wire, s, later, started⟩ :=
    exists_start Engine.sample 7 5875 100 (SeedStream.ofSeed 1) (List.cons_ne_nil _ _)
  have waiting := (stocks_of_start started).1
  obtain ⟨load, prove, loaded, admits⟩ := exists_admits Engine.sample waiting 200 300
  let t := (s.call Engine.sample (.receive load 200)).session
  obtain ⟨keys, derived, -, runs⟩ := ciphers_in_lockstep started
  obtain ⟨epoch, read⟩ := runs [.receive load 200, .receive prove 300]
  have asked : s.said Engine.sample (.receive load 200) =
      [ModuleImage.hashRequest Engine.sample.image.secrets.seed] := by
    rw [said, loaded]
    simp [saidTo, waiting]
  have told : t.said Engine.sample (.receive prove 300) =
      [Engine.sample.image.functions.message] := saidTo_of_admits admits
  refine ⟨wire, s, later, keys, load, prove, started, derived, ?_, ?_⟩
  · have sent := (sends_call Engine.sample t (.receive prove 300)).1.length
    rw [told, List.flatten_singleton] at sent
    rwa [Epoch.along, Epoch.along, Epoch.along, Epoch.next, if_pos admits, sent] at epoch
  · rw [read, saidIn, saidIn, saidIn, asked, told]

end Session

end Attest
