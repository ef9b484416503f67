import Attest.Proofs.Session.Honest
import Attest.Proofs.Session.Phases
import Attest.Proofs.Session.Settlement
import Mathlib.Logic.Relation

/-!
# Messages under way

An `Exchange` is an active session, an honest client, and what is under way between them. Messages
arrive in the order in which they were sent, and as late as they like; the client answers the
challenges that it has read, in order and once each, and says nothing else.

The steps of an exchange (`Exchange.Step`) note with each message which challenge it is about, as
nothing in the message itself tells. `Exchange.Synced` is the invariant of all runs:

* the letters under way lead each cipher to the one that it follows (`Underway`), so both sides read
  what the other one has said;
* the answers that have arrived and the challenges that are still to be answered are together all
  challenges, in order.
-/

namespace Attest

/-! ### Letters -/

/-- A message under way. -/
structure Letter where
  /-- The message before it was sealed. -/
  plain : Bytes
  wire : Bytes
  /-- The challenge that it asks or answers, if it does; challenges are counted from zero. -/
  about : Option Nat

/-- Whether letters, read in order, take the cipher of their reader to that of their writer. -/
def Underway : List Letter → Rc4 → Rc4 → Prop
  | [], reader, writer => reader = writer
  | l :: rest, reader, writer =>
    (reader.apply l.wire).1 = l.plain ∧ Underway rest (reader.advance l.wire.length) writer

/-- The letters of messages that were sealed, all about the same challenge. -/
def letters (about : Option Nat) (plains wires : List Bytes) : List Letter :=
  List.zipWith (fun plain wire => ⟨plain, wire, about⟩) plains wires

theorem Underway.write {under : List Letter} {reader : Rc4} {writer : CipherPair}
    (h : Underway under reader writer.send) (message : Bytes) (about : Option Nat) :
    Underway (under ++ [⟨message, (writer.sealed message).1, about⟩]) reader
      (writer.sealed message).2.send := by
  induction under generalizing reader with
  | nil =>
    obtain rfl : reader = writer.send := h
    refine ⟨?_, ?_⟩
    · simp [CipherPair.sealed]
    · simp [Underway]
  | cons l rest ih => exact ⟨h.1, ih h.2⟩

theorem Underway.writeAll {under : List Letter} {reader : Rc4} {writer : CipherPair}
    (h : Underway under reader writer.send) (messages : List Bytes) (about : Option Nat) :
    Underway (under ++ letters about messages (writer.sealedAll messages).1) reader
      (writer.sealedAll messages).2.send := by
  induction messages generalizing under writer with
  | nil => simpa [letters] using h
  | cons message rest ih =>
    have later := ih (h.write message about)
    rw [List.append_assoc] at later
    exact later

theorem mem_letters {about : Option Nat} {plains wires : List Bytes} {l : Letter}
    (h : l ∈ letters about plains wires) : l.about = about ∧ l.plain ∈ plains := by
  induction plains generalizing wires with
  | nil => simp [letters] at h
  | cons plain rest ih =>
    cases wires with
    | nil => simp [letters] at h
    | cons wire wires =>
      rcases List.mem_cons.1 h with rfl | h
      · exact ⟨rfl, List.mem_cons_self⟩
      · obtain ⟨same, mem⟩ := ih h
        exact ⟨same, List.mem_cons_of_mem _ mem⟩

theorem filterMap_about_cons (l : Letter) (rest : List Letter) :
    (l :: rest).filterMap Letter.about = l.about.toList ++ rest.filterMap Letter.about := by
  cases about : l.about <;> simp [about]

/-- Whether a call hands in a payload. -/
def Call.isReceive : Call → Bool
  | receive .. => true
  | tick .. => false

namespace Session

variable {engine : Engine} {s : Session} {n : Nat}

/-- The letters that a call sends, where `n` challenges were sent before. -/
def posted (engine : Engine) (s : Session) (n : Nat) (c : Call) : List Letter :=
  letters ((s.issued engine c).map fun _ => n) (s.said engine c) (s.call engine c).wires

/-- What a session says when it sends a challenge. -/
theorem said_of_issued {c : Call} {challenge : Challenge}
    (issued : s.issued engine c = some challenge) : s.said engine c = [challenge.payload] := by
  obtain ⟨now, seeds, later, rfl, due, built⟩ := exists_of_issued issued
  rw [said, if_pos due, built]

theorem posted_of_issued {c : Call} {challenge : Challenge}
    (issued : s.issued engine c = some challenge) :
    ∃ wire, s.posted engine n c = [⟨challenge.payload, wire, some n⟩] := by
  obtain ⟨sends, -⟩ := sends_call engine s c
  refine ⟨((s.speaking engine c).sealed challenge.payload).1, ?_⟩
  rw [posted, sends.wires, issued, said_of_issued issued]
  rfl

theorem about_posted {c : Call} (quiet : s.issued engine c = none) {l : Letter}
    (h : l ∈ s.posted engine n c) : l.about = none := by
  rw [posted, quiet] at h
  exact (mem_letters h).1

/-- The challenges that the letters of a call are about. -/
theorem filterMap_posted (engine : Engine) (s : Session) (n : Nat) (c : Call) :
    (s.posted engine n c).filterMap Letter.about = ((s.issued engine c).map fun _ => n).toList := by
  cases issued : s.issued engine c with
  | none => exact List.filterMap_eq_nil_iff.2 fun l hl => about_posted issued hl
  | some challenge =>
    obtain ⟨wire, posted⟩ := posted_of_issued (n := n) issued
    rw [posted]
    rfl

end Session

/-! ### Exchanges -/

/-- What has happened since a session became active, and what is under way. -/
structure Exchange where
  /-- The calls on the session. -/
  calls : List Call
  /-- The ciphers of the client. -/
  client : CipherPair
  /-- The challenges that the client has read and not answered yet, the oldest first. -/
  pending : List Nat
  /-- The letters to the client, the oldest first. -/
  down : List Letter
  /-- The letters to the session, the oldest first. -/
  up : List Letter
  /-- The time of the last call, in milliseconds. -/
  clock : Nat

namespace Exchange

/-- The exchange in which a session has just got the right answer to the seed. -/
def admitted (engine : Engine) (s : Session) (c : Call) : Exchange where
  calls := []
  client := CipherPair.client (engine.rotated s.keys)
  pending := []
  down := s.posted engine 0 c
  up := []
  clock := c.now

/-- The session after the calls of an exchange, where `s` is the one that has become active. -/
def session (engine : Engine) (s : Session) (e : Exchange) : Session :=
  s.after engine e.calls

/-- The challenges that were sent. -/
def sent (engine : Engine) (s : Session) (e : Exchange) : List Challenge :=
  s.challenges engine e.calls

/-- How many letters have arrived at the session. -/
def heard (e : Exchange) : Nat :=
  e.calls.countP Call.isReceive

/-- The challenges whose answers have not arrived, in the order in which they will. -/
def outstanding (e : Exchange) : List Nat :=
  e.up.filterMap Letter.about ++ e.pending ++ e.down.filterMap Letter.about

/-- The exchange after a call on the session. -/
def called (engine : Engine) (s : Session) (e : Exchange) (c : Call) : Exchange :=
  { e with
    calls := e.calls ++ [c]
    down := e.down ++ (e.session engine s).posted engine (e.sent engine s).length c
    clock := c.now }

/-- The exchange in which the client has answered a challenge. -/
def answered (engine : Engine) (e : Exchange) (i : Nat) (a : Response.Answer) : Exchange :=
  let message := Word.message engine (.answer a)
  { e with
    client := (e.client.sealed message).2
    up := e.up ++ [⟨message, (e.client.sealed message).1, some i⟩] }

/-- What may happen next. -/
inductive Step (engine : Engine) (s : Session) (e : Exchange) : Exchange → Prop
  /-- Time goes by. -/
  | wait {now : Nat} (later : e.clock ≤ now) (seeds : SeedStream) :
      Step engine s e (e.called engine s (.tick now seeds))
  /-- The oldest letter to the session arrives. -/
  | deliver {now : Nat} {l : Letter} {rest : List Letter} (next : e.up = l :: rest)
      (later : e.clock ≤ now) :
      Step engine s e { e.called engine s (.receive l.wire now) with up := rest }
  /-- The oldest letter to the client arrives. -/
  | read {l : Letter} {rest : List Letter} (next : e.down = l :: rest) :
      Step engine s e { e with
        client := (e.client.opened l.wire).2
        down := rest
        pending := e.pending ++ l.about.toList }
  /-- The client answers the oldest challenge that it has read. -/
  | answer {i : Nat} {rest : List Nat} {c : Challenge} {a : Response.Answer}
      (next : e.pending = i :: rest) (asked : (e.sent engine s)[i]? = some c)
      (honest : a.Honest (engine.catalog.found s.build c.inFlight)) :
      Step engine s e { e.answered engine i a with pending := rest }

/-- Runs of an exchange. -/
def Run (engine : Engine) (s : Session) : Exchange → Exchange → Prop :=
  Relation.ReflTransGen (Step engine s)

variable {engine : Engine} {s : Session} {e : Exchange}

/-! ### Calls -/

theorem session_called (engine : Engine) (s : Session) (e : Exchange) (c : Call) :
    (e.called engine s c).session engine s = ((e.session engine s).call engine c).session := by
  rw [session, called, Session.after_append]
  rfl

theorem sent_called (engine : Engine) (s : Session) (e : Exchange) (c : Call) :
    (e.called engine s c).sent engine s =
      e.sent engine s ++ ((e.session engine s).issued engine c).toList := by
  rw [sent, called, Session.challenges_append]
  simp [Session.challenges, session, sent]

theorem heard_called (engine : Engine) (s : Session) (e : Exchange) (c : Call) :
    (e.called engine s c).heard = e.heard + c.isReceive.toNat := by
  rw [heard, called, List.countP_append, List.countP_singleton]
  cases c.isReceive <;> rfl

theorem getElem?_sent_called {i : Nat} {c : Challenge} (h : (e.sent engine s)[i]? = some c)
    (call : Call) : ((e.called engine s call).sent engine s)[i]? = some c := by
  obtain ⟨bound, -⟩ := List.getElem?_eq_some_iff.1 h
  rw [sent_called, List.getElem?_append_left bound]
  exact h

/-! ### In sync -/

/-- Whether a letter is an honest answer to the challenge that it is about, which is one of those
that were sent to a client of this build. -/
structure Answers (engine : Engine) (build : Build) (sent : List Challenge) (l : Letter) (i : Nat)
    (c : Challenge) (a : Response.Answer) : Prop where
  about : l.about = some i
  asked : sent[i]? = some c
  plain : l.plain = Word.message engine (.answer a)
  honest : a.Honest (engine.catalog.found build c.inFlight)

/-- What holds of an exchange at any time. -/
structure Synced (engine : Engine) (s : Session) (e : Exchange) : Prop where
  down : Underway e.down e.client.receive (e.session engine s).cipher.send
  up : Underway e.up (e.session engine s).cipher.receive e.client.send
  /-- A letter to the client that is about a challenge is that challenge. -/
  asks : ∀ l ∈ e.down, ∀ i, l.about = some i →
    ∃ c, (e.sent engine s)[i]? = some c ∧ l.plain = c.payload
  answers : ∀ l ∈ e.up, ∃ i c a, Answers engine s.build (e.sent engine s) l i c a
  /-- The answers arrive in the order of the challenges. -/
  order : List.range e.heard ++ e.outstanding = List.range (e.sent engine s).length

theorem Answers.called {l : Letter} {i : Nat} {c : Challenge} {a : Response.Answer}
    (h : Answers engine s.build (e.sent engine s) l i c a) (call : Call) :
    Answers engine s.build ((e.called engine s call).sent engine s) l i c a :=
  ⟨h.about, getElem?_sent_called h.asked call, h.plain, h.honest⟩

theorem asks_called (h : e.Synced engine s) (c : Call) :
    ∀ l ∈ (e.called engine s c).down, ∀ i, l.about = some i →
      ∃ c', ((e.called engine s c).sent engine s)[i]? = some c' ∧ l.plain = c'.payload := by
  intro l hl i about
  rcases List.mem_append.1 hl with old | new
  · obtain ⟨c', asked, plain⟩ := h.asks l old i about
    exact ⟨c', getElem?_sent_called asked c, plain⟩
  · cases issued : (e.session engine s).issued engine c with
    | none =>
      rw [Session.about_posted issued new] at about
      cases about
    | some challenge =>
      obtain ⟨wire, posted⟩ := Session.posted_of_issued (n := (e.sent engine s).length) issued
      rw [posted, List.mem_singleton] at new
      subst new
      cases about
      refine ⟨challenge, ?_, rfl⟩
      rw [sent_called, issued]
      simp

/-- The letters of a call lead the client to where the session is after it. -/
theorem down_called (h : e.Synced engine s) {c : Call}
    (quiet : ¬ (e.session engine s).Admits engine ((e.session engine s).opens c)) :
    Underway (e.called engine s c).down e.client.receive
      ((e.called engine s c).session engine s).cipher.send := by
  obtain ⟨sends, -⟩ := Session.sends_call engine (e.session engine s) c
  rw [Session.speaking, if_neg quiet] at sends
  have under : Underway e.down e.client.receive
      ((e.session engine s).cipher.opened c.payload).2.send := by
    rw [CipherPair.opened_snd]
    exact h.down
  rw [session_called, sends.cipher, called, Session.posted, sends.wires]
  exact under.writeAll _ _

/-- A call moves the receiving cipher on by the bytes that it hands in. -/
theorem receive_called {c : Call}
    (quiet : ¬ (e.session engine s).Admits engine ((e.session engine s).opens c)) :
    ((e.called engine s c).session engine s).cipher.receive =
      (e.session engine s).cipher.receive.advance c.payload.length := by
  obtain ⟨sends, -⟩ := Session.sends_call engine (e.session engine s) c
  rw [session_called, sends.cipher, Session.speaking, if_neg quiet, CipherPair.sealedAll_eq_advance,
    CipherPair.opened_snd]

theorem range_append_posted {k n : Nat} {out : List Nat}
    (h : List.range k ++ out = List.range n) (issued : Option Challenge) :
    List.range k ++ (out ++ (issued.map fun _ => n).toList) =
      List.range (n + issued.toList.length) := by
  rw [← List.append_assoc, h]
  cases issued with
  | none => simp
  | some c => simp [List.range_succ]

/-- The first of the outstanding challenges is the one after those that were answered. -/
theorem range_append_cons {k n i : Nat} {out : List Nat}
    (h : List.range k ++ i :: out = List.range n) :
    i = k ∧ List.range (k + 1) ++ out = List.range n := by
  have size : k + (out.length + 1) = n := by simpa using congrArg List.length h
  have here : (List.range k ++ i :: out)[k]? = some k := by
    rw [h, List.getElem?_range (by omega)]
  have first : i = k := by simpa using here
  subst first
  refine ⟨rfl, ?_⟩
  rw [List.range_succ, List.append_assoc]
  exact h

/-! ### Steps -/

/-- A call that does not admit keeps an exchange in sync, if it hands in what the client has sealed
first, or nothing. -/
theorem Synced.called (h : e.Synced engine s) {c : Call} {up : List Letter}
    (quiet : ¬ (e.session engine s).Admits engine ((e.session engine s).opens c))
    (under : Underway up ((e.session engine s).cipher.receive.advance c.payload.length)
      e.client.send)
    (kept : ∀ l ∈ up, l ∈ e.up)
    (order : List.range (e.heard + c.isReceive.toNat) ++
      (up.filterMap Letter.about ++ e.pending ++ e.down.filterMap Letter.about) =
        List.range (e.sent engine s).length) :
    Synced engine s { e.called engine s c with up := up } where
  down := down_called h quiet
  up := by
    have receive := receive_called quiet
    rw [← receive] at under
    exact under
  asks := asks_called h c
  answers l hl := by
    obtain ⟨i, challenge, a, answers⟩ := h.answers l (kept l hl)
    exact ⟨i, challenge, a, answers.called c⟩
  order := by
    have posted := range_append_posted order ((e.session engine s).issued engine c)
    rw [← Session.filterMap_posted engine (e.session engine s),
      List.append_assoc _ _ (List.filterMap _ _), ← List.filterMap_append, ← List.length_append,
      ← sent_called, ← heard_called engine s] at posted
    exact posted

theorem active_session (active : s.phase = .active) (engine : Engine) (e : Exchange) :
    (e.session engine s).phase = .active :=
  (Session.final_after (.inl active) e.calls).1.trans active

/-- No call changes the keys any more. -/
theorem not_admits (active : s.phase = .active) (engine : Engine) (e : Exchange) (c : Call) :
    ¬ (e.session engine s).Admits engine ((e.session engine s).opens c) :=
  Session.not_admits_of_final (.inl (active_session active engine e)) _

theorem Synced.wait (h : e.Synced engine s) (active : s.phase = .active) (now : Nat)
    (seeds : SeedStream) : (e.called engine s (.tick now seeds)).Synced engine s := by
  exact h.called (not_admits active engine e _) h.up (fun _ hl => hl) h.order

theorem Synced.deliver (h : e.Synced engine s) (active : s.phase = .active) {l : Letter}
    {rest : List Letter} (next : e.up = l :: rest) (now : Nat) :
    Synced engine s { e.called engine s (.receive l.wire now) with up := rest } := by
  have under := h.up
  have order := h.order
  obtain ⟨i, c, a, answers⟩ := h.answers l (by rw [next]; exact List.mem_cons_self)
  rw [next] at under
  rw [outstanding, next, List.filterMap_cons_some answers.about] at order
  refine h.called (not_admits active engine e _) under.2 (fun l' hl => ?_) ?_
  · rw [next]
    exact List.mem_cons_of_mem _ hl
  · exact (range_append_cons order).2

theorem Synced.read (h : e.Synced engine s) {l : Letter} {rest : List Letter}
    (next : e.down = l :: rest) :
    Synced engine s { e with
      client := (e.client.opened l.wire).2
      down := rest
      pending := e.pending ++ l.about.toList } := by
  have under := h.down
  rw [next] at under
  constructor
  · rw [CipherPair.opened_snd]
    exact under.2
  · rw [CipherPair.opened_snd]
    exact h.up
  · intro l' hl
    exact h.asks l' (by rw [next]; exact List.mem_cons_of_mem _ hl)
  · exact h.answers
  · have order := h.order
    rw [outstanding, next, filterMap_about_cons, ← List.append_assoc _ l.about.toList,
      List.append_assoc _ e.pending] at order
    exact order

theorem Synced.answer (h : e.Synced engine s) {i : Nat} {rest : List Nat} {c : Challenge}
    {a : Response.Answer} (next : e.pending = i :: rest)
    (asked : (e.sent engine s)[i]? = some c)
    (honest : a.Honest (engine.catalog.found s.build c.inFlight)) :
    Synced engine s { e.answered engine i a with pending := rest } := by
  constructor
  · simp only [answered, CipherPair.sealed_snd]
    exact h.down
  · exact h.up.write _ _
  · exact h.asks
  · intro l hl
    rcases List.mem_append.1 hl with old | new
    · exact h.answers l old
    · rw [List.mem_singleton] at new
      subst new
      exact ⟨i, c, a, rfl, asked, rfl, honest⟩
  · have order := h.order
    have moved : e.up.filterMap Letter.about ++ i :: rest =
        (e.answered engine i a).up.filterMap Letter.about ++ rest := by
      simp [answered]
    rw [outstanding, next, moved] at order
    exact order

theorem Step.synced {e' : Exchange} (step : Step engine s e e') (h : e.Synced engine s)
    (active : s.phase = .active) : e'.Synced engine s := by
  cases step with
  | wait later seeds => exact h.wait active _ seeds
  | deliver next later => exact h.deliver active next _
  | read next => exact h.read next
  | answer next asked honest => exact h.answer next asked honest

/-- **An exchange stays in sync** whatever happens in it. -/
theorem Run.synced {e' : Exchange} (run : Run engine s e e') (h : e.Synced engine s)
    (active : s.phase = .active) : e'.Synced engine s := by
  induction run with
  | refl => exact h
  | tail _ step ih => exact step.synced ih active

/-- The right answer to the seed puts session and client in sync. -/
theorem synced_admitted {t : Session} {c : Call} (admits : t.Admits engine (t.opens c)) :
    (admitted engine t c).Synced engine (t.call engine c).session := by
  have quiet : t.issued engine c = none := by
    obtain ⟨payload, now, rfl⟩ := Session.exists_receive_of_admits admits
    rfl
  obtain ⟨sends, -⟩ := Session.sends_call engine t c
  rw [Session.speaking, if_pos admits] at sends
  have fresh : Underway [] (CipherPair.client (engine.rotated t.keys)).receive
      (CipherPair.server (engine.rotated t.keys)).send := rfl
  constructor
  · rw [session, admitted, Session.after, sends.cipher, Session.posted, sends.wires]
    exact fresh.writeAll _ _
  · rw [session, admitted, Session.after, sends.cipher, CipherPair.sealedAll_eq_advance]
    exact rfl
  · intro l hl i about
    rw [Session.about_posted quiet hl] at about
    cases about
  · intro l hl
    exact absurd hl List.not_mem_nil
  · rw [outstanding, admitted, Session.filterMap_posted, quiet]
    rfl

end Exchange

end Attest
