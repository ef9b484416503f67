import Attest.Proofs.Challenge.Seeding
import Attest.Proofs.Session.Server

/-!
# Sessions do not interfere

The sessions of a server share the seeds, and what one of them draws is missing to all others. It
does not show in them: `Server.sessions_do_not_interfere` compares a session of a server with one
that is alone and is visited as it is, from the same shuffle seed. All that the two make of their
visits is the same, but for the bodies of module checks in the challenges.

The argument is a step of two sessions in the same state that are called with different seeds
(`Session.Sound.alike_call`): a challenge takes its seeds after the checks are drawn, its length
does not depend on them, and a cipher counts bytes only. So the two are in the same state again.
-/

namespace Attest

/-! ### Sights -/

/-- What a call shows. -/
structure Sight where
  turn : Turn Reply
  /-- What the client reads of the messages that it is sent. -/
  read : List Bytes

/-- Whether two sights are the same but for the seeds of module checks. -/
inductive Sight.Alike (catalog : Catalog) : Sight → Sight → Prop
  | same {x : Sight} : Alike catalog x x
  /-- Both send a challenge for the checks that are in flight then. -/
  | challenge {session : Session} {log : List Event} {wire wire' p p' : Bytes} {f : InFlight}
      (flight : session.inFlight = some f) (length : wire.length = wire'.length)
      (twins : Challenge.Twins (catalog.found session.build f.ids) p p') :
      Alike catalog ⟨⟨.ok (.update (.challenge wire)), session, log⟩, [p]⟩
        ⟨⟨.ok (.update (.challenge wire')), session, log⟩, [p']⟩

theorem Sight.Alike.session {catalog : Catalog} {x y : Sight} (h : Alike catalog x y) :
    x.turn.session = y.turn.session := by
  cases h <;> rfl

namespace Session

/-- The turns of a row of calls. -/
def turns (engine : Engine) (s : Session) : List Call → List (Turn Reply)
  | [] => []
  | c :: rest => s.call engine c :: turns engine (s.call engine c).session rest

/-- The sights of a row of calls, for a client that opens all it is sent in order. -/
def sights (engine : Engine) (s : Session) (client : CipherPair) (calls : List Call) :
    List Sight :=
  List.zipWith Sight.mk (s.turns engine calls) (s.overheard engine client calls)

variable {engine : Engine} {s : Session}

/-! ### Two runs -/

/-- If no challenge is due, the seeds are not looked at. -/
theorem call_eq_of_not_due {now : Nat} (quiet : ¬ s.Due engine now) (seeds seeds' : SeedStream) :
    s.call engine (.tick now seeds) = s.call engine (.tick now seeds') := by
  by_cases active : s.phase = .active
  · cases flight : s.inFlight with
    | some f =>
      by_cases late : engine.config.timing.timeout.toNat < now - f.sentAt <;>
        simp [call, tick, active, flight, late]
    | none =>
      have early : ¬ engine.config.timing.interval.toNat ≤ now - s.waitingSince :=
        fun late => quiet ⟨active, flight, late⟩
      simp [call, tick, active, flight, early]
  · simp [call, tick, active]

/-- **Calls that are the same but for the seeds show the same** but for the seeds of module
checks. -/
theorem Sound.alike_call (h : s.Sound engine) {c c' : Call} (same : c.visit = c'.visit) :
    Sight.Alike engine.catalog ⟨s.call engine c, s.said engine c⟩
      ⟨s.call engine c', s.said engine c'⟩ := by
  cases c with
  | receive payload now =>
    cases c' with
    | receive =>
      cases same
      exact .same
    | tick => cases same
  | tick now seeds =>
    cases c' with
    | receive => cases same
    | tick now' seeds' =>
      cases same
      -- only a challenge that is due takes seeds, and only after its checks were drawn
      by_cases due : s.Due engine now
      · rw [call_eq_of_due due, call_eq_of_due due, said, said, if_pos due, if_pos due]
        unfold nextChallenge
        rcases Challenge.twins_ofSelection h.selection_of s.keys.tagMask seeds seeds' with
          ⟨fault, broken, broken'⟩ | ⟨p, p', built, built', twins⟩
        · rw [broken, broken']
          exact .same
        · -- a cipher moves on by the length of what it seals
          have cipher : (s.cipher.sealed p').2 = (s.cipher.sealed p).2 := by
            simp [twins.length]
          rw [built, built']
          simp only [cipher]
          exact .challenge rfl (by simp [twins.length]) twins
      · rw [call_eq_of_not_due due seeds seeds', said, said, if_neg due, if_neg due]
        exact .same

/-- Rows of calls that are the same but for the seeds lead to the same session, and show the same
but for the seeds of module checks. -/
theorem Sound.alike_calls (h : s.Sound engine) {client : CipherPair}
    (mirrored : s.cipher.send = client.receive) {calls calls' : List Call}
    (same : calls.map Call.visit = calls'.map Call.visit) :
    s.after engine calls = s.after engine calls' ∧
      List.Forall₂ (Sight.Alike engine.catalog) (s.sights engine client calls)
        (s.sights engine client calls') := by
  -- what the client reads is what the session says, and that does not need the client
  rw [sights, sights, overheard_eq_saidIn mirrored, overheard_eq_saidIn mirrored]
  clear mirrored
  induction calls generalizing s calls' with
  | nil =>
    obtain rfl := List.map_eq_nil_iff.1 same.symm
    exact ⟨rfl, .nil⟩
  | cons c rest ih =>
    cases calls' with
    | nil => cases same
    | cons c' rest' =>
      obtain ⟨first, later⟩ := List.cons.inj same
      have alike := h.alike_call first
      have next := ih (h.call c) later
      have session : (s.call engine c).session = (s.call engine c').session := alike.session
      rw [session] at next
      refine ⟨?_, .cons alike ?_⟩
      · rw [Session.after, Session.after, session]
        exact next.1
      · rw [session]
        exact next.2

/-- Of the seeds, a start looks at the first two words only. -/
theorem start_fst (engine : Engine) (account : UInt32) (build : Build) (secret : Bytes)
    (now : Nat) {seeds seeds' : SeedStream} (same : seeds.next64.1 = seeds'.next64.1) :
    (start engine account build secret now seeds).1 =
      (start engine account build secret now seeds').1 := by
  simp only [start]
  cases Keys.derive? secret engine.image.secrets.seed with
  | none => rfl
  | some keys => rw [same]

end Session

namespace Server

/-- The visits to a session, as orders to a server that has no other one. -/
def solo (who : Nat) (orders : List Order) : List Order :=
  (orders.filterMap (Order.visitTo? who)).map (Order.visit 0)

theorem visits_solo (who : Nat) (orders : List Order) :
    (solo who orders).filterMap (Order.visitTo? 0) = orders.filterMap (Order.visitTo? who) := by
  rw [solo, List.filterMap_map]
  exact List.filterMap_some

/-- Whether a session fares among others as it does in a server of its own. -/
structure Undisturbed (engine : Engine) (s : Session) (client : CipherPair) (who : Nat)
    (orders : List Order) (shared own : Server) : Prop where
  /-- Among others it comes to what its calls lead to. -/
  among : (shared.after engine orders).sessions[who]? =
    some (s.after engine (shared.calls engine who orders))
  /-- So it does alone. -/
  alone : (own.after engine (solo who orders)).sessions[0]? =
    some (s.after engine (own.calls engine 0 (solo who orders)))
  /-- Both times it is the same in the end. -/
  session : s.after engine (shared.calls engine who orders) =
    s.after engine (own.calls engine 0 (solo who orders))
  /-- Call by call it shows the same, but for the seeds of module checks. -/
  sights : List.Forall₂ (Sight.Alike engine.catalog)
    (s.sights engine client (shared.calls engine who orders))
    (s.sights engine client (own.calls engine 0 (solo who orders)))

/-- A session that two servers hold fares alike in both. -/
theorem undisturbed {engine : Engine} {v w : Server} {who : Nat} {s : Session}
    (here : v.sessions[who]? = some s) (own : w.sessions[0]? = some s) (sound : s.Sound engine)
    {client : CipherPair} (mirrored : s.cipher.send = client.receive) (orders : List Order) :
    Undisturbed engine s client who orders v w := by
  have visits : (v.calls engine who orders).map Call.visit =
      (w.calls engine 0 (solo who orders)).map Call.visit := by
    rw [map_visit_calls, map_visit_calls, visits_solo]
  obtain ⟨session, sights⟩ := sound.alike_calls mirrored visits
  exact ⟨getElem?_after here orders, getElem?_after own _, session, sights⟩

/-- **Sessions that share their seeds do not interfere.** A session is started in a server that may
hold any others, and again in a server of its own, whose seeds begin with the same two words, the
shuffle seed. Both starts come to the same. Whatever the first server is asked then, in whatever
order, and with whatever further starts, the session fares in it as it does in the second server,
which is asked for the visits to it only: after every call it is in the same state, its turns and
the lengths of its messages are the same, and so is all that its client reads, but for the bodies of
module checks. -/
theorem sessions_do_not_interfere {engine : Engine} (v : Server) (account : UInt32) (build : Build)
    (secret : Bytes) (now : Nat) (orders : List Order) {seeds : SeedStream}
    (same : seeds.next64.1 = v.seeds.next64.1) :
    (Session.start engine account build secret now v.seeds).1 =
      (Session.start engine account build secret now seeds).1 ∧
    ∀ wire s keys,
      (Session.start engine account build secret now v.seeds).1 = .ok (wire, s) →
      Keys.derive? secret engine.image.secrets.seed = some keys →
      Undisturbed engine s ((CipherPair.client keys).opened wire).2 v.sessions.length orders
        (v.next engine (.start account build secret now))
        ((fresh seeds).next engine (.start account build secret now)) := by
  have starts := Session.start_fst engine account build secret now same.symm
  refine ⟨starts, ?_⟩
  intro wire s keys started derived
  have here : (v.next engine (.start account build secret now)).sessions[v.sessions.length]? =
      some s := by
    rw [next_start started, List.getElem?_concat_length]
  have own : ((fresh seeds).next engine (.start account build secret now)).sessions[0]? =
      some s := by
    rw [next_start (starts.symm.trans started)]
    rfl
  have mirrored : s.cipher.send = ((CipherPair.client keys).opened wire).2.receive := by
    obtain ⟨keys', derived', rfl, rfl⟩ := Session.start_eq_ok (Prod.ext started rfl)
    obtain rfl := Option.some.inj (derived.symm.trans derived')
    simp [CipherPair.server, CipherPair.client]
  exact undisturbed here own (Session.sound_of_start (Prod.ext started rfl)) mirrored orders

/-- Two sessions are visited in turn, and a third one is started. -/
theorem sample_sessions :
    ∃ v wire s keys,
      v = (fresh (.ofSeed 1)).after Engine.sample [.start 3 5875 [0x01] 50, .visit 0 (.tick 60)] ∧
      Undisturbed Engine.sample s ((CipherPair.client keys).opened wire).2 1
        [.visit 1 (.receive [0xC3] 200), .visit 0 (.receive [0x3C] 210),
          .start 9 5875 [0x02] 220, .visit 1 (.tick 230)]
        (v.next Engine.sample (.start 7 5875 [0x5A, 0xA5] 100))
        ((fresh v.seeds).next Engine.sample (.start 7 5875 [0x5A, 0xA5] 100)) := by
  obtain ⟨wire₀, s₀, later₀, started₀⟩ := Session.exists_start Engine.sample 3 5875 50 (.ofSeed 1)
    (List.cons_ne_nil 0x01 [])
  let v := (fresh (.ofSeed 1)).after Engine.sample [.start 3 5875 [0x01] 50, .visit 0 (.tick 60)]
  obtain ⟨wire, s, later, started⟩ := Session.exists_start Engine.sample 7 5875 100 v.seeds
    (List.cons_ne_nil 0x5A [0xA5])
  obtain ⟨keys, derived, -⟩ := Session.start_eq_ok started
  have count : v.sessions.length = 1 := by
    have first : ((fresh (.ofSeed 1)).next Engine.sample (.start 3 5875 [0x01] 50)).sessions =
        [s₀] := next_start (congrArg Prod.fst started₀)
    simp only [v, after]
    rw [next_visit (s := s₀) (by rw [first]; rfl), first]
    rfl
  have fares := (sessions_do_not_interfere v 7 5875 [0x5A, 0xA5] 100
    [.visit 1 (.receive [0xC3] 200), .visit 0 (.receive [0x3C] 210),
      .start 9 5875 [0x02] 220, .visit 1 (.tick 230)] rfl).2 wire s keys
    (congrArg Prod.fst started) derived
  rw [count] at fares
  exact ⟨v, wire, s, keys, rfl, fares⟩

end Server

end Attest
