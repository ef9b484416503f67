import Attest.Proofs.Session.Server

/-!
# Refused payloads

A payload is refused if it is empty, begins with no opcode, or is a message that the phase has no
use for (`Session.Refuses`). No payload fails for another reason: the checks in flight are checks
of the catalog, so an answer to them is always read (`Session.Sound.receive_error_iff`).

The main result is `Server.refusal_moves_receiving_cipher_only`: as the payload was opened, the
receiving cipher of the session moves on by its length. All else stays, in the session, in the
other ones and in the seeds.
-/

namespace Attest

open Wire (ClientOpcode)

namespace Session

/-- Whether a session refuses an opened message, and the fault that tells why. -/
inductive Refuses (s : Session) : Bytes → Fault → Prop
  /-- There is no byte to read. -/
  | empty : Refuses s [] (.truncated ⟨1, 0⟩)
  /-- The first byte is no opcode. -/
  | unknown {byte : UInt8} {body : Bytes} (h : ClientOpcode.ofByte? byte = none) :
      Refuses s (byte :: body) (.unknownOpcode byte)
  /-- The session has no use for the message. -/
  | unexpected {opcode : ClientOpcode} {body : Bytes} (h : ¬ s.Awaits opcode) :
      Refuses s (opcode.byte :: body) (.unexpectedOpcode opcode s.phase)

variable {engine : Engine} {s : Session} {payload : Bytes} {now : Nat} {fault : Fault}

/-- Opening a payload changes nothing that messages are judged by. -/
theorem refuses_hearing_iff (payload : Bytes) {message : Bytes} :
    (s.hearing payload).Refuses message fault ↔ s.Refuses message fault := by
  have awaits (opcode : ClientOpcode) : (s.hearing payload).Awaits opcode ↔ s.Awaits opcode := by
    cases opcode <;> exact Iff.rfl
  constructor
  · rintro (_ | hb | idle)
    · exact .empty
    · exact .unknown hb
    · exact .unexpected ((awaits _).not.1 idle)
  · rintro (_ | hb | idle)
    · exact .empty
    · exact .unknown hb
    · exact .unexpected ((awaits _).not.2 idle)

/-- Only an empty message is too short. -/
theorem Refuses.eq_nil {message : Bytes} {cause : Wire.Truncated}
    (h : s.Refuses message (.truncated cause)) : message = [] := by
  cases h
  rfl

/-- If a call with a message fails, the message is refused, and the session stays as it is. -/
theorem Received.refuses {turn : Turn Reaction} {message : Bytes}
    (h : Received engine now s message turn) (sound : s.Sound engine)
    (failed : turn.result = .error fault) : s.Refuses message fault ∧ turn.session = s := by
  cases h with
  | empty =>
    cases failed
    exact ⟨.empty, rfl⟩
  | unknown hb =>
    cases failed
    exact ⟨.unknown hb, rfl⟩
  | refused idle =>
    cases failed
    exact ⟨.unexpected idle, rfl⟩
  | missing | loaded | failed | accepted =>
    rw [sending_eq] at failed
    cases failed
  | rejected | answered => cases failed
  | desynced active flight lost =>
    -- the checks in flight are defined, so the answer to them is read
    rw [sound.validate_ok flight] at lost
    cases lost

theorem handle_of_not_awaits {opcode : ClientOpcode} {body : Bytes} (idle : ¬ s.Awaits opcode) :
    s.handle engine opcode body now = s.refuse opcode := by
  unfold handle
  split
  case h_1 h | h_2 h | h_5 h => exact absurd h idle
  case h_3 h => exact absurd (.inl h) idle
  case h_4 h => exact absurd (.inr h) idle
  case h_6 h flight => exact absurd ⟨h, by simp [flight]⟩ idle
  case h_7 => rfl

/-- A call with a message that is refused fails. -/
theorem receive_of_refuses (engine : Engine)
    (h : s.Refuses (s.opens (.receive payload now)) fault) :
    (s.receive engine payload now).result = .error fault := by
  have opened : s.opened payload = (s.opens (.receive payload now), s.hearing payload) := rfl
  rw [receive, opened]
  have refused := (refuses_hearing_iff payload).2 h
  generalize s.opens (.receive payload now) = message at refused
  cases refused with
  | empty => rfl
  | unknown hb => simp only [hb]
  | unexpected idle =>
    simp only [ClientOpcode.ofByte?_byte, handle_of_not_awaits idle]
    rfl

/-- A call with a payload fails just if its message is refused. -/
theorem Sound.receive_error_iff (h : s.Sound engine) :
    (s.receive engine payload now).result = .error fault ↔
      s.Refuses (s.opens (.receive payload now)) fault := by
  refine ⟨fun failed => ?_, receive_of_refuses engine⟩
  have received := received_receive engine payload now s
  exact (refuses_hearing_iff payload).1 (received.refuses (h.hearing payload) failed).1

/-- A payload that is refused moves the receiving cipher on, by its length. -/
theorem Sound.session_of_refused (h : s.Sound engine)
    (failed : (s.receive engine payload now).result = .error fault) :
    (s.receive engine payload now).session =
      { s with cipher.receive := s.cipher.receive.advance payload.length } := by
  have received := received_receive engine payload now s
  obtain ⟨-, same⟩ := received.refuses (h.hearing payload) failed
  rw [same, Session.hearing, CipherPair.opened_snd]

theorem opens_eq_nil_iff : s.opens (.receive payload now) = [] ↔ payload = [] := by
  rw [← List.length_eq_zero_iff, opens, CipherPair.opened, Rc4.length_apply, Call.payload,
    List.length_eq_zero_iff]

/-- A session reads what a client that has opened the announcement seals first. -/
theorem opens_of_start {account : UInt32} {build : Build} {secret : Bytes} {t : Nat}
    {seeds later : SeedStream} {wire : Bytes}
    (started : start engine account build secret t seeds = (.ok (wire, s), later))
    (message : Bytes) (now : Nat) :
    ∃ payload, s.opens (.receive payload now) = message ∧ payload.length = message.length := by
  obtain ⟨keys, -, -, rfl⟩ := start_eq_ok started
  refine ⟨((CipherPair.client keys).sealed message).1, ?_, CipherPair.length_sealed _ _⟩
  refine CipherPair.opened_sealed ?_ message
  rw [CipherPair.sealed_snd]
  exact (CipherPair.mirrors_keys keys).back

end Session

namespace Server

/-- **A payload that is refused moves the receiving cipher on and changes nothing else.** In each
session of a server, whatever the server was asked before, a call with a payload fails just if the
session refuses the message; the message is too short just if the payload is empty. The server then
differs from what it was in the receiving cipher of the session, which has moved on by the length of
the payload. -/
theorem refusal_moves_receiving_cipher_only {engine : Engine} {v : Server} {who : Nat}
    {s : Session} (reachable : v.Reachable engine) (here : v.sessions[who]? = some s)
    (payload : Bytes) (now : Nat) :
    ((∃ cause, (s.receive engine payload now).result = .error (.truncated cause)) ↔
      payload = []) ∧
    ∀ fault,
      ((s.receive engine payload now).result = .error fault ↔
        s.Refuses (s.opens (.receive payload now)) fault) ∧
      ((s.receive engine payload now).result = .error fault →
        v.next engine (.visit who (.receive payload now)) =
          { v with
            sessions := v.sessions.set who
              { s with cipher.receive := s.cipher.receive.advance payload.length } }) := by
  have sound : s.Sound engine := reachable.sound s (List.mem_of_getElem? here)
  refine ⟨⟨?_, ?_⟩, fun fault => ⟨sound.receive_error_iff, ?_⟩⟩
  · rintro ⟨cause, failed⟩
    exact Session.opens_eq_nil_iff.1 (sound.receive_error_iff.1 failed).eq_nil
  · intro none
    refine ⟨⟨1, 0⟩, sound.receive_error_iff.2 ?_⟩
    rw [Session.opens_eq_nil_iff.2 none]
    exact .empty
  · intro failed
    rw [next_visit here, ← sound.session_of_refused failed]
    rfl

/-- A client may answer a challenge before there is one. -/
theorem sample_refusal :
    ∃ v s payload, v = (fresh (.ofSeed 1)).after Engine.sample [.start 7 5875 [0x5A, 0xA5] 100] ∧
      v.sessions = [s] ∧ payload.length = 1 ∧
      (s.receive Engine.sample payload 200).result =
        .error (.unexpectedOpcode .checksResult .awaitingModule) ∧
      v.next Engine.sample (.visit 0 (.receive payload 200)) =
        { v with sessions := [{ s with cipher.receive := s.cipher.receive.advance 1 }] } := by
  obtain ⟨wire, s, later, started⟩ := Session.exists_start Engine.sample 7 5875 100 (.ofSeed 1)
    (List.cons_ne_nil 0x5A [0xA5])
  obtain ⟨payload, opened, length⟩ :=
    Session.opens_of_start started [ClientOpcode.checksResult.byte] 200
  let v := (fresh (.ofSeed 1)).after Engine.sample [.start 7 5875 [0x5A, 0xA5] 100]
  have alone : v.sessions = [s] := next_start (congrArg Prod.fst started)
  have waiting : s.phase = .awaitingModule := by
    obtain ⟨keys, -, -, rfl⟩ := Session.start_eq_ok started
    rfl
  have refused : s.Refuses [ClientOpcode.checksResult.byte]
      (.unexpectedOpcode .checksResult .awaitingModule) := by
    rw [← waiting]
    exact .unexpected fun use => by simp [Session.Awaits, waiting] at use
  rw [← opened] at refused
  have reachable : v.Reachable Engine.sample := ⟨_, _, rfl⟩
  have here : v.sessions[0]? = some s := by rw [alone]; rfl
  obtain ⟨failed, moved⟩ := (refusal_moves_receiving_cipher_only reachable here payload 200).2 _
  have after := moved (failed.2 refused)
  rw [alone, length] at after
  exact ⟨v, s, payload, rfl, alone, length, failed.2 refused, after⟩

end Server

end Attest
