import Attest.Proofs.Response.Honest
import Attest.Proofs.Session.Invariant
import Attest.Proofs.Session.Lockstep

/-!
# Honest clients

A `World` is a session together with a client that mirrors its ciphers. The client follows the
script of an untampered one (`World.Legal`): it may miss the module and fail to load it as often
as it likes, loads it and proves it, and then answers each challenge, before it expires and before
it says anything else, with what an untampered client finds (`Response.Answer.Honest`).

`Session.honest_client_unpunished` says that nothing ever happens to such a client. The proof
carries one invariant through a run: session and client agree on keys, ciphers, phase and
challenge (`World.Synced`). A move that is legal in a world that is in sync makes one of four things
happen (`World.Happens`), and leads to a world that is in sync again.
-/

namespace Attest

open Wire (ClientOpcode)

/-! ### The world -/

/-- How far a client is with the module. -/
inductive Stage where
  /-- The module is announced. -/
  | loading
  /-- The module is loaded. -/
  | loaded
  /-- The seed is answered. -/
  | proven
  deriving DecidableEq, Repr

/-- The phase of a session whose client is at this stage. -/
def Stage.phase : Stage → Phase
  | loading => .awaitingModule
  | loaded => .awaitingHash
  | proven => .active

/-- A client that mirrors a session. -/
structure Client where
  build : Build
  stage : Stage
  keys : Keys
  ciphers : CipherPair
  /-- The challenge that it has not answered yet. -/
  asked : Option InFlight

/-- What an honest client says. -/
inductive Word where
  /-- It misses the module. -/
  | missing
  /-- It could not load the module. -/
  | failed
  /-- It has loaded the module. -/
  | loaded
  /-- The right answer to the seed. -/
  | proof
  /-- The answer to a challenge. -/
  | answer (a : Response.Answer)

/-- The plain message of a word. -/
def Word.message (engine : Engine) : Word → Bytes
  | missing => [ClientOpcode.moduleMissing.byte]
  | failed => [ClientOpcode.moduleFailed.byte]
  | loaded => [ClientOpcode.moduleOk.byte]
  | proof => engine.proof
  | answer a => ClientOpcode.checksResult.byte :: Response.frame a.covered

/-- What happens next. -/
inductive Move where
  /-- Time goes by. -/
  | wait (now : Nat) (seeds : SeedStream)
  /-- The client says a word. -/
  | say (word : Word) (now : Nat)

/-- Whether a move is an answer to a challenge. -/
def Move.isAnswer : Move → Bool
  | say (.answer _) _ => true
  | _ => false

/-- The client that has said a word. -/
def Client.say (engine : Engine) (c : Client) (word : Word) : Client :=
  let c := { c with ciphers := (c.ciphers.sealed (word.message engine)).2 }
  match word with
  | .missing => c
  | .failed => { c with stage := .loading }
  | .loaded => { c with stage := .loaded }
  | .proof => { c with
      stage := .proven
      keys := engine.rotated c.keys
      ciphers := CipherPair.client (engine.rotated c.keys) }
  | .answer _ => { c with asked := none }

/-- The client that has done its part of a move and opened nothing yet. -/
def Client.act (engine : Engine) (c : Client) : Move → Client
  | .wait .. => c
  | .say word _ => c.say engine word

/-- A session and its client. -/
structure World where
  session : Session
  client : Client

/-- An honest answer to the checks in flight deserves no penalty. -/
theorem Session.verdict_of_honest {checks : List Check} {a : Response.Answer}
    (h : a.Honest checks) (engine : Engine) (s : Session) (elapsed : UInt32) :
    s.verdict engine (.decoded (a.report checks elapsed)) =
      ⟨.decoded (a.report checks elapsed), none⟩ := by
  rw [Session.verdict, Penalty.judge_eq_none_iff.2]
  exact h.isClean elapsed

namespace World

/-- The call on the session that a move makes. -/
def call (engine : Engine) (w : World) : Move → Call
  | .wait now seeds => .tick now seeds
  | .say word now => .receive (w.client.ciphers.sealed (word.message engine)).1 now

/-- What the session makes of a move. -/
def turn (engine : Engine) (w : World) (m : Move) : Turn Reply :=
  w.session.call engine (w.call engine m)

/-- What the client reads of the session's messages, and its ciphers afterwards. -/
def opened (engine : Engine) (w : World) (m : Move) : List Bytes × CipherPair :=
  (w.client.act engine m).ciphers.openedAll (w.turn engine m).wires

/-- The challenge that the client has to answer after a move. -/
def asked (engine : Engine) (w : World) (m : Move) : Option InFlight :=
  match (w.turn engine m).result with
  | .ok (.update (.challenge _)) => (w.turn engine m).session.inFlight
  | _ => (w.client.act engine m).asked

/-- The world after a move. -/
def next (engine : Engine) (w : World) (m : Move) : World where
  session := (w.turn engine m).session
  client := { w.client.act engine m with
    ciphers := (w.opened engine m).2
    asked := w.asked engine m }

/-- What may happen to an honest client: a challenge that it has not answered yet does not expire,
and it says only what the script of an untampered client has next. -/
inductive Legal (engine : Engine) (w : World) : Move → Prop
  | wait {now : Nat} {seeds : SeedStream}
      (intime : ∀ f, w.client.asked = some f →
        now - f.sentAt ≤ engine.config.timing.timeout.toNat) :
      Legal engine w (.wait now seeds)
  | missing {now : Nat} (h : w.client.stage = .loading) : Legal engine w (.say .missing now)
  | failed {now : Nat} (h : w.client.stage ≠ .proven) : Legal engine w (.say .failed now)
  | loaded {now : Nat} (h : w.client.stage = .loading) : Legal engine w (.say .loaded now)
  | proof {now : Nat} (h : w.client.stage = .loaded) : Legal engine w (.say .proof now)
  | answer {now : Nat} {f : InFlight} {a : Response.Answer} (h : w.client.asked = some f)
      (honest : a.Honest (engine.catalog.found w.client.build f.ids)) :
      Legal engine w (.say (.answer a) now)

/-- Runs of a world. -/
inductive Run (engine : Engine) (w₀ : World) : List Move → World → Prop
  | start : Run engine w₀ [] w₀
  | move {moves : List Move} {w : World} {m : Move} (run : Run engine w₀ moves w)
      (legal : w.Legal engine m) : Run engine w₀ (moves ++ [m]) (w.next engine m)

/-! ### In sync -/

/-- Whether session and client agree on all that both know, and the session has counted so many
answers. -/
structure Synced (engine : Engine) (w : World) (answers : Nat) : Prop where
  sound : w.session.Sound engine
  build : w.client.build = w.session.build
  ciphers : CipherPair.Mirrors w.session.cipher w.client.ciphers
  keys : w.client.keys = w.session.keys
  phase : w.session.phase = w.client.stage.phase
  asked : w.session.inFlight = w.client.asked
  cycles : w.session.cycles = answers

variable {engine : Engine} {w : World} {n : Nat} {m : Move}

/-- What the session opens is what the client has said. -/
theorem Synced.opens (h : w.Synced engine n) (word : Word) (now : Nat) :
    w.session.opens (w.call engine (.say word now)) = word.message engine :=
  CipherPair.opened_sealed h.ciphers.back _

theorem not_admits_message {s : Session} {word : Word} (h : word ≠ .proof) :
    ¬ s.Admits engine (word.message engine) := by
  cases word with
  | proof => exact absurd rfl h
  | _ => exact Session.not_admits_of_ne _ (by decide)

theorem ciphers_say {c : Client} {word : Word} (h : word ≠ .proof) :
    (c.say engine word).ciphers = (c.ciphers.sealed (word.message engine)).2 := by
  cases word with
  | proof => exact absurd rfl h
  | _ => rfl

theorem Synced.speaking_wait (h : w.Synced engine n) (now : Nat) (seeds : SeedStream) :
    CipherPair.Mirrors (w.session.speaking engine (.tick now seeds)) w.client.ciphers := by
  have quiet := Session.not_admits_tick engine w.session now seeds
  rw [Session.speaking, if_neg quiet, CipherPair.opened_snd]
  exact h.ciphers

theorem Synced.speaking_say (h : w.Synced engine n) {word : Word} (other : word ≠ .proof)
    (now : Nat) :
    CipherPair.Mirrors (w.session.speaking engine (w.call engine (.say word now)))
      (w.client.say engine word).ciphers := by
  have quiet : ¬ w.session.Admits engine (w.session.opens (w.call engine (.say word now))) := by
    rw [h.opens]
    exact not_admits_message other
  rw [Session.speaking, if_neg quiet, ciphers_say other]
  exact h.ciphers.spoken _

theorem Synced.admits_proof (h : w.Synced engine n) (loaded : w.client.stage = .loaded)
    (now : Nat) :
    w.session.Admits engine (w.session.opens (w.call engine (.say .proof now))) := by
  rw [h.opens]
  refine ⟨?_, List.prefix_refl _⟩
  rw [h.phase, loaded, Stage.phase]

/-- Before a reply is opened, the ciphers of the client are in step with those that seal it. -/
theorem Synced.speaking (h : w.Synced engine n) (legal : w.Legal engine m) :
    CipherPair.Mirrors (w.session.speaking engine (w.call engine m))
      (w.client.act engine m).ciphers := by
  cases legal with
  | wait => exact h.speaking_wait _ _
  | @proof now loaded =>
    rw [Session.speaking, if_pos (h.admits_proof loaded now), ← h.keys]
    exact CipherPair.mirrors_keys _
  | missing | failed | loaded | answer => exact h.speaking_say (by simp) _

/-- The client reads what the session says. -/
theorem Synced.heard (h : w.Synced engine n) (legal : w.Legal engine m) :
    (w.opened engine m).1 = w.session.said engine (w.call engine m) := by
  obtain ⟨sends, -⟩ := Session.sends_call engine w.session (w.call engine m)
  rw [opened, turn, sends.wires]
  exact CipherPair.openedAll_sealedAll (h.speaking legal).there _

theorem Synced.ciphers_next (h : w.Synced engine n) (legal : w.Legal engine m) :
    CipherPair.Mirrors (w.next engine m).session.cipher (w.next engine m).client.ciphers := by
  obtain ⟨sends, -⟩ := Session.sends_call engine w.session (w.call engine m)
  simp only [next, opened, turn]
  rw [sends.wires, sends.cipher]
  exact (h.speaking legal).heard _

theorem Synced.keys_next (h : w.Synced engine n) (legal : w.Legal engine m) :
    (w.next engine m).client.keys = (w.next engine m).session.keys := by
  obtain ⟨-, keys⟩ := Session.sends_call engine w.session (w.call engine m)
  simp only [next, turn, keys]
  cases legal with
  | wait =>
    rw [call, if_neg (Session.not_admits_tick _ _ _ _)]
    exact h.keys
  | @proof now loaded =>
    rw [if_pos (h.admits_proof loaded now), ← h.keys]
    rfl
  | missing | failed | loaded | answer =>
    rw [h.opens, if_neg (not_admits_message (by simp)), ← h.keys]
    rfl

/-! ### Turns -/

/-- What a session makes of the moves of an honest client. -/
inductive Happens (engine : Engine) (w : World) : Move → Turn Reply → Prop
  /-- At a word of the handshake it sends messages and moves on to the phase of the client. -/
  | handshake {word : Word} {now : Nat} {s : Session} {messages : List Bytes} {log : List Event}
      (other : (Move.say word now).isAnswer = false)
      (phase : s.phase = (w.client.say engine word).stage.phase)
      (flight : s.inFlight = w.session.inFlight) (cycles : s.cycles = w.session.cycles) :
      Happens engine w (.say word now) ((s.sending messages log).map .reaction)
  /-- An answer to a challenge is found clean, and counted. -/
  | answered {a : Response.Answer} {now : Nat} {f : InFlight} {s : Session} {log : List Event}
      (asked : w.client.asked = some f)
      (honest : a.Honest (engine.catalog.found w.client.build f.ids))
      (phase : s.phase = w.session.phase) (flight : s.inFlight = none)
      (cycles : s.cycles = w.session.cycles + 1) :
      Happens engine w (.say (.answer a) now)
        ⟨.ok (.reaction (.cycle ⟨.decoded (a.report (engine.catalog.found w.client.build f.ids)
          (Session.InFlight.elapsed f now)), none⟩)), s, log⟩
  /-- Nothing is due. -/
  | quiet {now : Nat} {seeds : SeedStream} (quiet : ¬ w.session.Due engine now) :
      Happens engine w (.wait now seeds) ⟨.ok (.update .idle), w.session, []⟩
  /-- A challenge is sent. -/
  | challenged {now : Nat} {seeds later : SeedStream} {c : Challenge} {wire : Bytes} {s : Session}
      {log : List Event} (due : w.session.Due engine now)
      (built : w.session.nextChallenge engine seeds = (.ok c, later))
      (phase : s.phase = w.session.phase) (flight : s.inFlight = some ⟨c.inFlight, now⟩)
      (cycles : s.cycles = w.session.cycles) :
      Happens engine w (.wait now seeds) ⟨.ok (.update (.challenge wire)), s, log⟩

theorem Synced.happens_handshake (h : w.Synced engine n) {word : Word} {now : Nat}
    (legal : w.Legal engine (.say word now)) (other : (Move.say word now).isAnswer = false) :
    w.Happens engine (.say word now) (w.turn engine (.say word now)) := by
  have phase := h.phase
  cases legal with
  | missing loading =>
    have turn := Session.call_receive engine (h.opens .missing now)
    rw [loading] at phase
    rw [Session.handle_moduleMissing (s := w.session.hearing _) phase] at turn
    rw [World.turn, call, turn]
    exact .handshake other h.phase rfl rfl
  | failed unproven =>
    have turn := Session.call_receive engine (h.opens .failed now)
    have waiting : w.session.phase = .awaitingModule ∨ w.session.phase = .awaitingHash := by
      rw [phase]
      revert unproven
      cases w.client.stage <;> simp [Stage.phase]
    rw [Session.handle_moduleFailed (s := w.session.hearing _) waiting] at turn
    rw [World.turn, call, turn]
    exact .handshake other rfl rfl rfl
  | loaded loading =>
    have turn := Session.call_receive engine (h.opens .loaded now)
    rw [loading] at phase
    rw [Session.handle_moduleOk (s := w.session.hearing _) phase] at turn
    rw [World.turn, call, turn]
    exact .handshake other rfl rfl rfl
  | proof loaded =>
    have turn := Session.call_receive engine (h.opens .proof now)
    rw [loaded] at phase
    rw [Session.handle_hashResult (s := w.session.hearing _) phase (List.prefix_refl _)] at turn
    rw [World.turn, call, turn]
    exact .handshake other rfl rfl rfl
  | answer => cases other

theorem Synced.happens_answer (h : w.Synced engine n) {f : InFlight} {a : Response.Answer}
    (asked : w.client.asked = some f)
    (honest : a.Honest (engine.catalog.found w.client.build f.ids)) (now : Nat) :
    w.Happens engine (.say (.answer a) now) (w.turn engine (.say (.answer a) now)) := by
  let checks := engine.catalog.found w.session.build f.ids
  let elapsed := Session.InFlight.elapsed f now
  have found : engine.catalog.found w.client.build f.ids = checks := by rw [h.build]
  have turn := Session.call_receive engine (h.opens (.answer a) now)
  have flight : w.session.inFlight = some f := h.asked.trans asked
  have active : w.session.phase = .active := h.sound.active (by rw [flight]; simp)
  have read : Response.validate engine.catalog w.session.build f.ids (Response.frame a.covered)
      elapsed = .ok (Response.examine checks (Response.frame a.covered) elapsed) :=
    h.sound.validate_ok flight _ _
  have untampered : a.Honest checks := by
    rw [← found]
    exact honest
  rw [Session.handle_checksResult (s := w.session.hearing _) active flight read,
    untampered.outcome elapsed, Session.verdict_of_honest untampered] at turn
  rw [World.turn, call, turn, ← found]
  exact .answered asked honest rfl rfl rfl

theorem Synced.happens_wait (h : w.Synced engine n)
    (quota : engine.config.scheduling.secondaryQuota ≤ 255) {now : Nat} (seeds : SeedStream)
    (intime : ∀ f, w.client.asked = some f →
      now - f.sentAt ≤ engine.config.timing.timeout.toNat) :
    w.Happens engine (.wait now seeds) (w.turn engine (.wait now seeds)) := by
  have ticked := Session.ticked_tick engine now seeds w.session
  rw [World.turn, call, Session.call]
  generalize w.session.tick engine now seeds = result at ticked
  cases ticked with
  | idle quiet => exact .quiet quiet
  | @expired f late =>
    -- a legal wait ends before the challenge times out
    have early := intime f (h.asked.symm.trans late.2.1)
    exact absurd late.2.2 (by omega)
  | challenged due built => exact .challenged due built rfl rfl rfl
  | unbuilt due broken =>
    obtain ⟨c, later, built⟩ := h.sound.nextChallenge_ok quota seeds
    rw [built] at broken
    cases broken

/-- A legal move in a world that is in sync makes one of four things happen. -/
theorem Synced.happens (h : w.Synced engine n)
    (quota : engine.config.scheduling.secondaryQuota ≤ 255) (legal : w.Legal engine m) :
    w.Happens engine m (w.turn engine m) := by
  cases hm : m.isAnswer with
  | true =>
    cases legal with
    | answer asked honest => exact h.happens_answer asked honest _
    | _ => cases hm
  | false =>
    cases m with
    | say word now => exact h.happens_handshake legal hm
    | wait now seeds =>
      cases legal with
      | wait intime => exact h.happens_wait quota seeds intime

/-! ### Runs -/

theorem asked_say (c : Client) {word : Word} {now : Nat}
    (other : (Move.say word now).isAnswer = false) : (c.say engine word).asked = c.asked := by
  cases word with
  | answer => cases other
  | _ => rfl

/-- After a legal move session and client are at the same stage again, at the same challenge, and
an answer has been counted. -/
theorem Synced.agree (h : w.Synced engine n)
    (quota : engine.config.scheduling.secondaryQuota ≤ 255) (legal : w.Legal engine m) :
    (w.turn engine m).session.phase = (w.client.act engine m).stage.phase ∧
      (w.turn engine m).session.inFlight = w.asked engine m ∧
      (w.turn engine m).session.cycles = n + m.isAnswer.toNat := by
  have happens := h.happens quota legal
  rw [World.asked]
  generalize w.turn engine m = turn at happens
  cases happens with
  | handshake other phase flight cycles =>
    simp only [Session.sending_eq, other]
    refine ⟨phase, ?_, cycles.trans h.cycles⟩
    exact (flight.trans h.asked).trans (asked_say w.client other).symm
  | answered asked honest phase flight cycles =>
    exact ⟨phase.trans h.phase, flight, cycles.trans (by rw [h.cycles]; rfl)⟩
  | quiet => exact ⟨h.phase, h.asked, h.cycles⟩
  | challenged due built phase flight cycles =>
    exact ⟨phase.trans h.phase, rfl, cycles.trans h.cycles⟩

theorem build_act (c : Client) (m : Move) : (c.act engine m).build = c.build := by
  cases m with
  | wait => rfl
  | say word => cases word <;> rfl

/-- **A legal move keeps the world in sync.** -/
theorem Synced.next (h : w.Synced engine n)
    (quota : engine.config.scheduling.secondaryQuota ≤ 255) (legal : w.Legal engine m) :
    (w.next engine m).Synced engine (n + m.isAnswer.toNat) := by
  obtain ⟨phase, asked, cycles⟩ := h.agree quota legal
  constructor
  · exact h.sound.call _
  · exact (build_act w.client m).trans (h.build.trans (Session.build_call engine _ _).symm)
  · exact h.ciphers_next legal
  · exact h.keys_next legal
  · exact phase
  · exact asked
  · exact cycles

theorem Run.synced {w₀ : World} {moves : List Move} (run : Run engine w₀ moves w)
    (h : w₀.Synced engine 0) (quota : engine.config.scheduling.secondaryQuota ≤ 255) :
    w.Synced engine (moves.countP Move.isAnswer) := by
  induction run with
  | start => exact h
  | @move moves w m run legal ih =>
    have counted : (moves ++ [m]).countP Move.isAnswer =
        moves.countP Move.isAnswer + m.isAnswer.toNat := by
      rw [List.countP_append, List.countP_singleton]
      cases m.isAnswer <;> rfl
    rw [counted]
    exact ih.next quota legal

theorem Synced.asked_next_proof (h : w.Synced engine n)
    (quota : engine.config.scheduling.secondaryQuota ≤ 255) (loaded : w.client.stage = .loaded)
    (now : Nat) : (w.next engine (.say .proof now)).client.asked = none := by
  have waiting : w.session.phase = .awaitingHash := by rw [h.phase, loaded, Stage.phase]
  have legal : w.Legal engine (.say .proof now) := .proof loaded
  have happens := h.happens quota legal
  rw [World.next, World.asked]
  generalize w.turn engine (.say .proof now) = turn at happens
  cases happens with
  | handshake other =>
    simp only [Session.sending_eq]
    rw [Client.act, asked_say w.client other, ← h.asked]
    exact h.sound.inFlight_eq_none (by rw [waiting]; decide)

/-- A client that loads the module can prove it, and is not asked anything then. -/
theorem Run.exists_handshake {w₀ : World} {moves : List Move} (run : Run engine w₀ moves w)
    (h : w.Synced engine n) (quota : engine.config.scheduling.secondaryQuota ≤ 255)
    (loading : w.client.stage = .loading) (now : Nat) :
    ∃ w', Run engine w₀ (moves ++ [.say .loaded now] ++ [.say .proof now]) w' ∧
      w'.client.stage = .proven ∧ w'.client.asked = none := by
  have load : w.Legal engine (.say .loaded now) := .loaded loading
  have prove : (w.next engine (.say .loaded now)).Legal engine (.say .proof now) := .proof rfl
  have synced := h.next quota load
  exact ⟨_, (run.move load).move prove, rfl, synced.asked_next_proof quota rfl now⟩

/-- A client that has proven the module and waits long enough is asked and can answer, if cycles
are of usual size. -/
theorem Run.exists_cycle {w₀ : World} {moves : List Move} (run : Run engine w₀ moves w)
    (h : w.Synced engine n) (proven : w.client.stage = .proven) (idle : w.client.asked = none)
    (few : engine.config.scheduling.primaryQuota + engine.config.scheduling.secondaryQuota ≤ 255)
    (seeds : SeedStream) :
    ∃ now a w', Run engine w₀ (moves ++ [.wait now seeds] ++ [.say (.answer a) now]) w' := by
  -- the first moment at which a challenge is due
  let now := w.session.waitingSince + engine.config.timing.interval.toNat
  have due : w.session.Due engine now := by
    refine ⟨?_, h.asked.trans idle, ?_⟩
    · rw [h.phase, proven, Stage.phase]
    · simp only [now, Nat.add_sub_cancel_left, Nat.le_refl]
  have intime : ∀ f, w.client.asked = some f →
      now - f.sentAt ≤ engine.config.timing.timeout.toNat := by
    intro f hf
    rw [idle] at hf
    cases hf
  have quota : engine.config.scheduling.secondaryQuota ≤ 255 := by omega
  have wait : w.Legal engine (.wait now seeds) := .wait intime
  have synced := h.next quota wait
  have happens := h.happens quota wait
  generalize turn : w.turn engine (.wait now seeds) = t at happens
  cases happens with
  | quiet quiet => exact absurd due quiet
  | @challenged _ _ _ c _ _ _ due built _ flight =>
    have asked : (w.next engine (.wait now seeds)).client.asked = some ⟨c.inFlight, now⟩ := by
      simp only [World.next, World.asked, turn, flight]
    obtain ⟨-, es, rfl, -⟩ := Challenge.ofSelection_of_ok h.sound.selection_of built
    have defined := synced.sound.defined _ (synced.asked.trans asked)
    have short : (engine.catalog.found (w.next engine (.wait now seeds)).session.build
        (w.session.selection engine).inFlight).length ≤ 255 :=
      Nat.le_trans (List.length_filterMap_le _ _) (Nat.le_trans h.sound.length_inFlight_le few)
    rw [← synced.build] at defined short
    have honest := Response.honest_untampered defined.defect?
      (Response.leastCovered_le_of_few short)
    exact ⟨now, _, _, (run.move wait).move (.answer asked honest)⟩

end World

namespace World

/-- What happens at a move of an honest client. -/
structure Fair (engine : Engine) (w : World) (m : Move) : Prop where
  /-- The call succeeds, and there is no penalty in the reply. -/
  reply : ∃ reply, (w.turn engine m).result = .ok reply ∧ reply.penalty? = none
  /-- The client reads what the session says. -/
  heard : (w.opened engine m).1 = w.session.said engine (w.call engine m)
  /-- The client takes from a challenge what its checks ask, in the order of the challenge. -/
  challenge : ∀ wire, (w.turn engine m).result = .ok (.update (.challenge wire)) →
    ∃ f payload request, (w.next engine m).client.asked = some f ∧
      (w.opened engine m).1 = [payload] ∧
      Challenge.decode? w.client.keys.tagMask
        ((engine.catalog.found w.client.build f.ids).map (·.kind.patternLength)) payload =
          some request ∧
      List.Forall₂ (fun c e => Challenge.Entry.Describes request.strings c.kind e)
        (engine.catalog.found w.client.build f.ids) request.entries
  /-- An answer is found clean, with a verdict for each check of the challenge. -/
  cycle : ∀ a now, m = .say (.answer a) now → ∃ f r, w.client.asked = some f ∧
    (w.turn engine m).result = .ok (.reaction (.cycle ⟨.decoded r, none⟩)) ∧
    r.isClean = true ∧ r.trailing = 0 ∧ r.verdicts.map (·.id) = f.ids

variable {engine : Engine} {w : World} {n : Nat} {m : Move}

theorem Synced.reply (h : w.Synced engine n)
    (quota : engine.config.scheduling.secondaryQuota ≤ 255) (legal : w.Legal engine m) :
    ∃ reply, (w.turn engine m).result = .ok reply ∧ reply.penalty? = none := by
  have happens := h.happens quota legal
  generalize w.turn engine m = turn at happens
  cases happens with
  | handshake => exact ⟨_, by rw [Session.sending_eq]; rfl, rfl⟩
  | answered | quiet | challenged => exact ⟨_, rfl, rfl⟩

theorem Synced.cycle (h : w.Synced engine n)
    (quota : engine.config.scheduling.secondaryQuota ≤ 255) {a : Response.Answer} {now : Nat}
    (legal : w.Legal engine (.say (.answer a) now)) :
    ∃ f r, w.client.asked = some f ∧
      (w.turn engine (.say (.answer a) now)).result =
        .ok (.reaction (.cycle ⟨.decoded r, none⟩)) ∧
      r.isClean = true ∧ r.trailing = 0 ∧ r.verdicts.map (·.id) = f.ids := by
  have happens := h.happens quota legal
  generalize w.turn engine (.say (.answer a) now) = turn at happens
  cases happens with
  | handshake other => cases other
  | @answered _ _ f _ _ asked honest =>
    refine ⟨f, _, asked, rfl, honest.isClean _, honest.trailing _, ?_⟩
    have defined := h.sound.defined f (h.asked.trans asked)
    rw [Response.Answer.report, Response.map_id_zipWith_verdict honest.fit, h.build,
      defined.map_id]

theorem Synced.challenge (h : w.Synced engine n)
    (quota : engine.config.scheduling.secondaryQuota ≤ 255) (legal : w.Legal engine m)
    {wire : Bytes} (sent : (w.turn engine m).result = .ok (.update (.challenge wire))) :
    ∃ f payload request, (w.next engine m).client.asked = some f ∧
      (w.opened engine m).1 = [payload] ∧
      Challenge.decode? w.client.keys.tagMask
        ((engine.catalog.found w.client.build f.ids).map (·.kind.patternLength)) payload =
          some request ∧
      List.Forall₂ (fun c e => Challenge.Entry.Describes request.strings c.kind e)
        (engine.catalog.found w.client.build f.ids) request.entries := by
  have heard := h.heard legal
  have happens := h.happens quota legal
  generalize turn : w.turn engine m = t at happens sent
  cases happens with
  | handshake =>
    rw [Session.sending_eq] at sent
    cases sent
  | answered | quiet => cases sent
  | @challenged now seeds _ c _ _ _ due built _ flight =>
    have asked : (w.next engine (.wait now seeds)).client.asked = some ⟨c.inFlight, now⟩ := by
      simp only [World.next, World.asked, turn, flight]
    have said : w.session.said engine (w.call engine (.wait now seeds)) = [c.payload] := by
      rw [call, Session.said, if_pos due, built]
    obtain ⟨request, decoded, describes⟩ := (h.sound.nextChallenge_asks built).read
    refine ⟨_, _, request, asked, heard.trans said, ?_, ?_⟩
    · rw [h.keys, h.build]
      exact decoded
    · rw [h.build]
      exact describes

theorem Synced.fair (h : w.Synced engine n)
    (quota : engine.config.scheduling.secondaryQuota ≤ 255) (legal : w.Legal engine m) :
    w.Fair engine m where
  reply := h.reply quota legal
  heard := h.heard legal
  challenge _ sent := h.challenge quota legal sent
  cycle _ _ said := by
    subst said
    exact h.cycle quota legal

end World

/-! ### Every run -/

namespace Session

/-- A session and its client behind the announcement. -/
def world (s : Session) (build : Build) (keys : Keys) (wire : Bytes) : World where
  session := s
  client := ⟨build, .loading, keys, ((CipherPair.client keys).opened wire).2, none⟩

theorem secondaryQuota_le {config : Config} (accepted : config.fault? = none) :
    config.scheduling.secondaryQuota ≤ 255 := by
  by_contra many
  rw [Config.fault?, if_pos (by omega)] at accepted
  cases accepted

/-- Behind the announcement session and client are in sync. -/
theorem synced_world {engine : Engine} {account : UInt32} {build : Build} {secret : Bytes}
    {now : Nat} {seeds later : SeedStream} {wire : Bytes} {s : Session} {keys : Keys}
    (started : start engine account build secret now seeds = (.ok (wire, s), later))
    (derived : Keys.derive? secret engine.image.secrets.seed = some keys) :
    (s.world build keys wire).Synced engine 0 := by
  have sound := sound_of_start started
  obtain ⟨keys', derived', rfl, rfl⟩ := start_eq_ok started
  obtain rfl : keys = keys' := Option.some.inj (derived.symm.trans derived')
  have mirrored := (CipherPair.mirrors_keys keys).heard [engine.image.announcement.message]
  constructor
  · exact sound
  · rfl
  · exact mirrored
  · rfl
  · rfl
  · rfl
  · rfl

/-- **Nothing ever happens to an honest client.** Let the configuration be one that can be used
and the secret not empty. Then a session starts, and along every run in which the client follows
the script of an untampered one, each call succeeds, no reply holds a penalty, the client reads
all that the session says, takes from each challenge what its checks ask, and each of its answers
is found clean; the session counts just these answers. -/
theorem honest_client_unpunished (engine : Engine) (account : UInt32) (build : Build)
    {secret : Bytes} (now : Nat) (seeds : SeedStream)
    (accepted : engine.config.fault? = none) (nonempty : secret ≠ []) :
    ∃ wire s later keys,
      start engine account build secret now seeds = (.ok (wire, s), later) ∧
      Keys.derive? secret engine.image.secrets.seed = some keys ∧
      ((CipherPair.client keys).opened wire).1 = engine.image.announcement.message ∧
      ∀ moves w, World.Run engine (s.world build keys wire) moves w →
        w.session.cycles = moves.countP Move.isAnswer ∧
        ∀ m, w.Legal engine m → w.Fair engine m := by
  obtain ⟨wire, s, later, started⟩ := exists_start engine account build now seeds nonempty
  obtain ⟨keys, derived, announced, -⟩ := start_eq_ok started
  refine ⟨wire, s, later, keys, started, derived, ?_, ?_⟩
  · rw [announced]
    exact CipherPair.opened_sealed (CipherPair.mirrors_keys keys).there _
  · intro moves w run
    have quota := secondaryQuota_le accepted
    have synced := run.synced (synced_world started derived) quota
    exact ⟨synced.cycles, fun m legal => synced.fair quota legal⟩

theorem sample_honest_run :
    ∃ wire s later keys moves w,
      start Engine.sample 7 5875 [0x5A, 0xA5] 100 (SeedStream.ofSeed 1) = (.ok (wire, s), later) ∧
      World.Run Engine.sample (s.world 5875 keys wire) moves w ∧
      moves.countP Move.isAnswer = 1 ∧ w.session.cycles = 1 := by
  have accepted : Engine.sample.config.fault? = none := by decide
  have nonempty : [0x5A, 0xA5] ≠ ([] : Bytes) := by decide
  obtain ⟨wire, s, later, keys, started, derived, -, runs⟩ :=
    honest_client_unpunished Engine.sample 7 5875 100 (SeedStream.ofSeed 1) accepted nonempty
  have synced := synced_world started derived
  have quota := secondaryQuota_le accepted
  obtain ⟨w, handshake, proven, idle⟩ := World.Run.start.exists_handshake synced quota rfl 200
  obtain ⟨now, a, w', run⟩ := handshake.exists_cycle (handshake.synced synced quota) proven idle
    (by decide) (SeedStream.ofSeed 2)
  exact ⟨wire, s, later, keys, _, w', started, run, rfl, (runs _ w' run).1⟩

end Session

end Attest
