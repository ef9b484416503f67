import Attest.Proofs.Challenge.Spending
import Attest.Proofs.Session.Server
import Mathlib.Algebra.Order.Ring.Nat

/-!
# No word is drawn twice

All sessions draw on one stream of words. A start takes two of them for the shuffle seed, and a
challenge takes one for each module check that its building reaches; nothing else takes any. The
sessions of a server may have an engine each here (`Server.run`).

* `Server.purposes` : what an order draws words for, told by what comes of the order;
* `Server.draws` : the draws of a row of orders, each with the position of its first word;
* `Server.sightings` : where the words come to light, in the stocks that a session starts with and
  in the challenges that its client reads;
* `Server.no_word_drawn_twice` : **the draws of a run take the words one after the other**, and each
  word comes to light where the draw was for.
-/

namespace Attest

/-! ### Draws -/

/-- What words of the seeds are drawn for. -/
inductive Purpose where
  /-- The shuffle seed of a session. -/
  | shuffle (who : Nat)
  /-- A module check in a challenge of a session, which is sent only if it could be built. -/
  | check (who : Nat) (id : CheckId) (sent : Bool)
  deriving DecidableEq, Repr

/-- How many words a purpose takes. -/
def Purpose.width : Purpose → Nat
  | shuffle _ => 2
  | check .. => 1

/-- Whether the words come to light in a challenge. -/
def Purpose.shows : Purpose → Bool
  | shuffle _ => false
  | check _ _ sent => sent

/-- The words that are drawn for a purpose. -/
structure Draw where
  /-- The position of the first word. -/
  place : Nat
  purpose : Purpose
  deriving DecidableEq, Repr

/-- Where words of the seeds come to light. -/
inductive Sighting where
  /-- The stocks that a session starts with. -/
  | stocks (who : Nat) (scheduler : Scheduler)
  /-- What the client of a session reads in the entry for a module check. -/
  | seed (who : Nat) (id : CheckId) (seed : UInt32)
  deriving DecidableEq

/-- The seed of a module check that is sighted. -/
def Sighting.seed? : Sighting → Option UInt32
  | seed _ _ word => some word
  | stocks .. => none

namespace Draw

/-- The positions of the words. -/
def places (d : Draw) : List Nat :=
  List.range' d.place d.purpose.width

/-- The draws for purposes that take the words from a position on, one behind the other. -/
def inRow (place : Nat) : List Purpose → List Draw
  | [] => []
  | p :: rest => ⟨place, p⟩ :: inRow (place + p.width) rest

/-- Where the words of a draw come to light, if they do. -/
def sighting? (engines : Nat → Engine) (key : ChaCha20.Key) (d : Draw) : Option Sighting :=
  match d.purpose with
  | .shuffle who =>
    some (.stocks who (Scheduler.start (engines who).config.scheduling
      (SeedStream.next64 ⟨key, d.place⟩).1))
  | .check who id true => some (.seed who id (ChaCha20.word key d.place))
  | .check _ _ false => none

/-- Draws in a row take the words from a position on, one after the other. -/
theorem flatMap_places_inRow (place : Nat) (purposes : List Purpose) :
    (inRow place purposes).flatMap places =
      List.range' place (purposes.map Purpose.width).sum := by
  induction purposes generalizing place with
  | nil => rfl
  | cons p rest ih =>
    rw [inRow, List.flatMap_cons, ih, List.map_cons, List.sum_cons, places,
      List.range'_append_1]

theorem map_width_inRow (place : Nat) (purposes : List Purpose) :
    ((inRow place purposes).map (·.purpose.width)).sum = (purposes.map Purpose.width).sum := by
  induction purposes generalizing place with
  | nil => rfl
  | cons p rest ih => rw [inRow, List.map_cons, List.sum_cons, ih, List.map_cons, List.sum_cons]

variable (engines : Nat → Engine)

/-- The words for the module checks of a challenge that is sent come to light in it. -/
theorem sighting?_sent (who : Nat) (ids : List CheckId) (seeds : SeedStream) :
    (inRow seeds.position (ids.map (.check who · true))).filterMap
        (sighting? engines seeds.key) =
      (ids.zip (seeds.words ids.length)).map fun entry => .seed who entry.1 entry.2 := by
  induction ids generalizing seeds with
  | nil => rfl
  | cons id rest ih =>
    rw [List.length_cons, SeedStream.words_succ, List.zip_cons_cons, List.map_cons]
    exact congrArg (_ :: ·) (ih (seeds.skip 1))

theorem sighting?_unsent (who : Nat) (ids : List CheckId) (place : Nat) (key : ChaCha20.Key) :
    (inRow place (ids.map (.check who · false))).filterMap (sighting? engines key) = [] := by
  induction ids generalizing place with
  | nil => rfl
  | cons id rest ih => exact ih (place + 1)

end Draw

/-! ### One call -/

theorem sum_width_check (who : Nat) (ids : List CheckId) (sent : Bool) :
    ((ids.map (.check who · sent)).map Purpose.width).sum = ids.length := by
  induction ids with
  | nil => rfl
  | cons id rest ih => rw [List.map_cons, List.map_cons, List.sum_cons, ih, List.length_cons,
      Nat.add_comm, Purpose.width]

namespace Session

variable {engine : Engine} {s : Session} {seeds later : SeedStream}

/-- A start takes the two words of the shuffle seed, and none if it fails. -/
theorem start_snd (engine : Engine) (account : UInt32) (build : Build) (secret : Bytes) (now : Nat)
    (seeds : SeedStream) :
    (start engine account build secret now seeds).2 =
      match (start engine account build secret now seeds).1 with
      | .ok _ => seeds.skip 2
      | .error _ => seeds := by
  unfold start
  cases Keys.derive? secret engine.image.secrets.seed <;> rfl

/-- The module checks that the building of the next challenge reaches. -/
def reached (engine : Engine) (s : Session) : List CheckId :=
  Challenge.reached engine.catalog s.build (s.selection engine)

/-- What a call draws words for: a challenge that is sent and one that fails draw for the module
checks that they reach, and no other call draws any. -/
def purposes (engine : Engine) (s : Session) (who : Nat) : Call → List Purpose
  | .receive .. => []
  | .tick now seeds =>
    match (s.tick engine now seeds).1.result with
    | .ok .idle | .ok (.timedOut _) => []
    | .ok (.challenge _) => (s.reached engine).map (.check who · true)
    | .error _ => (s.reached engine).map (.check who · false)

/-- The checks in flight, if there are any. -/
def asked (s : Session) : List CheckId :=
  (s.inFlight.map (·.ids)).getD []

/-- The seeds that the client of a session reads in the challenge that a call sends. -/
def sightings (engine : Engine) (s : Session) (who : Nat) (c : Call) : List Sighting :=
  match (s.call engine c).result with
  | .ok (.update (.challenge wire)) =>
    (Challenge.shown engine.catalog s.build s.keys.tagMask (s.call engine c).session.asked
      (s.cipher.send.apply wire).1).map fun entry => .seed who entry.1 entry.2
  | _ => []

/-- What a call may do to the seeds. -/
structure Spends (engine : Engine) (s : Session) (who : Nat) (seeds : SeedStream) (visit : Visit) :
    Prop where
  left : s.seedsLeft engine seeds visit =
    seeds.skip ((s.purposes engine who (visit.call seeds)).map Purpose.width).sum
  sightings : ∀ engines, s.sightings engine who (visit.call seeds) =
    (Draw.inRow seeds.position (s.purposes engine who (visit.call seeds))).filterMap
      (Draw.sighting? engines seeds.key)

theorem spends_receive (engine : Engine) (s : Session) (who : Nat) (seeds : SeedStream)
    (payload : Bytes) (now : Nat) : s.Spends engine who seeds (.receive payload now) where
  left := rfl
  sightings _ := by
    unfold sightings
    rw [Visit.call, call, Turn.map]
    cases (s.receive engine payload now).result <;> rfl

theorem Sound.spends_tick (h : s.Sound engine) (who : Nat) (seeds : SeedStream) (now : Nat) :
    s.Spends engine who seeds (.tick now) := by
  have ticked := ticked_tick engine now seeds s
  generalize turn : s.tick engine now seeds = result at ticked
  constructor
  · unfold purposes seedsLeft
    simp only [Visit.call, turn]
    cases ticked with
    | idle | expired => rfl
    | challenged _ built | unbuilt _ built =>
      rw [sum_width_check, ← congrArg Prod.snd built]
      exact Challenge.seeds_ofSelection _ _ _ _ _
  · intro engines
    unfold purposes sightings Session.call
    simp only [Visit.call, turn]
    cases ticked with
    | idle | expired => rfl
    | unbuilt => exact (Draw.sighting?_unsent engines who _ _ _).symm
    | challenged due built =>
      obtain ⟨-, shown⟩ := Challenge.shown_ofSelection h.selection_of built
      rw [Draw.sighting?_sent]
      show (Challenge.shown engine.catalog s.build s.keys.tagMask _
        (s.cipher.send.apply (s.cipher.send.apply _).1).1).map _ = _
      rw [Rc4.apply_apply]
      exact congrArg _ shown

/-- **What a call does to the seeds.** It takes the next words for its purposes, and those that its
client reads are the words of their purposes. -/
theorem Sound.spends (h : s.Sound engine) (who : Nat) (seeds : SeedStream) (visit : Visit) :
    s.Spends engine who seeds visit := by
  cases visit with
  | receive payload now => exact spends_receive engine s who seeds payload now
  | tick now => exact h.spends_tick who seeds now

end Session

/-! ### Servers of several engines -/

namespace Server

variable (engines : Nat → Engine)

/-- The engine of the session that an order is about. -/
def engineOf (v : Server) : Order → Engine
  | .start .. => engines v.sessions.length
  | .visit who _ => engines who

/-- Does what is asked, with the engine of the session. -/
def step (v : Server) (o : Order) : Server :=
  v.next (v.engineOf engines o) o

/-- The server after a row of orders. -/
def run (v : Server) : List Order → Server
  | [] => v
  | o :: rest => run (v.step engines o) rest

/-- What an order draws words for: a session that is started draws its shuffle seed. -/
def purposes (v : Server) : Order → List Purpose
  | .start account build secret now =>
    match (Session.start (engines v.sessions.length) account build secret now v.seeds).1 with
    | .ok _ => [.shuffle v.sessions.length]
    | .error _ => []
  | .visit who visit =>
    match v.sessions[who]? with
    | some s => s.purposes (engines who) who (visit.call v.seeds)
    | none => []

/-- The draws of a row of orders. Each order finds the words from the position on that the orders
before have left. -/
def draws (v : Server) : List Order → List Draw
  | [] => []
  | o :: rest =>
    Draw.inRow v.seeds.position (v.purposes engines o) ++ draws (v.step engines o) rest

/-- Where the words of an order come to light. -/
def sightingsOf (v : Server) : Order → List Sighting
  | .start account build secret now =>
    match (Session.start (engines v.sessions.length) account build secret now v.seeds).1 with
    | .ok (_, s) => [.stocks v.sessions.length s.scheduler]
    | .error _ => []
  | .visit who visit =>
    match v.sessions[who]? with
    | some s => s.sightings (engines who) who (visit.call v.seeds)
    | none => []

/-- Where the words of a row of orders come to light, in order. -/
def sightings (v : Server) : List Order → List Sighting
  | [] => []
  | o :: rest => v.sightingsOf engines o ++ sightings (v.step engines o) rest

variable {engines} {v : Server}

/-! ### Sound servers of several engines -/

/-- Whether each session is sound for its engine. -/
def SoundFor (engines : Nat → Engine) (v : Server) : Prop :=
  ∀ (who : Nat) (s : Session), v.sessions[who]? = some s → s.Sound (engines who)

theorem SoundFor.step (h : v.SoundFor engines) (o : Order) :
    (v.step engines o).SoundFor engines := by
  intro who s here
  cases o with
  | start account build secret now =>
    rcases started : Session.start (engines v.sessions.length) account build secret now v.seeds with
      ⟨fault | ⟨wire, t⟩, later⟩
    · simp only [Server.step, engineOf, next, started] at here
      exact h who s (by simpa [Except.toOption] using here)
    · rw [Server.step, engineOf, next_start (congrArg Prod.fst started)] at here
      by_cases old : who < v.sessions.length
      · rw [List.getElem?_append_left old] at here
        exact h who s here
      · rw [List.getElem?_append_right (Nat.le_of_not_lt old), List.getElem?_singleton] at here
        split at here
        case isTrue zero =>
          obtain rfl : who = v.sessions.length := by omega
          cases here
          exact Session.sound_of_start started
        case isFalse => cases here
  | visit other visit =>
    cases there : v.sessions[other]? with
    | none =>
      simp only [Server.step, next, there] at here
      exact h who s here
    | some t =>
      rw [Server.step, engineOf, next_visit there] at here
      by_cases own : other = who
      · subst own
        obtain ⟨bound, -⟩ := List.getElem?_eq_some_iff.1 there
        rw [List.getElem?_set_self bound] at here
        cases here
        exact (h other t there).call _
      · rw [List.getElem?_set_ne own] at here
        exact h who s here

/-! ### Every run -/

/-- What an order does to the seeds. -/
theorem SoundFor.spends (h : v.SoundFor engines) (o : Order) :
    (v.step engines o).seeds =
        v.seeds.skip ((v.purposes engines o).map Purpose.width).sum ∧
      v.sightingsOf engines o =
        (Draw.inRow v.seeds.position (v.purposes engines o)).filterMap
          (Draw.sighting? engines v.seeds.key) := by
  cases o with
  | start account build secret now =>
    have left :=
      Session.start_snd (engines v.sessions.length) account build secret now v.seeds
    rcases started : Session.start (engines v.sessions.length) account build secret now v.seeds with
      ⟨fault | ⟨wire, s⟩, later⟩
    · simp only [Server.step, engineOf, next, purposes, sightingsOf, started] at left ⊢
      exact ⟨left, rfl⟩
    · simp only [Server.step, engineOf, next, purposes, sightingsOf, started] at left ⊢
      rw [(Session.stocks_of_start started).2]
      exact ⟨left, rfl⟩
  | visit who visit =>
    cases here : v.sessions[who]? with
    | none =>
      simp only [Server.step, next, purposes, sightingsOf, here]
      exact ⟨rfl, rfl⟩
    | some s =>
      have spends := (h who s here).spends who v.seeds visit
      simp only [Server.step, engineOf, next_visit here, purposes, sightingsOf, here]
      exact ⟨spends.left, spends.sightings engines⟩

/-- The draws of a run take the words one after the other, and each comes to light where its draw
was for. -/
theorem SoundFor.draws (h : v.SoundFor engines) (orders : List Order) :
    (v.draws engines orders).flatMap Draw.places =
        List.range' v.seeds.position ((v.draws engines orders).map (·.purpose.width)).sum ∧
      (v.run engines orders).seeds =
        v.seeds.skip ((v.draws engines orders).map (·.purpose.width)).sum ∧
      v.sightings engines orders =
        (v.draws engines orders).filterMap (Draw.sighting? engines v.seeds.key) := by
  induction orders generalizing v with
  | nil => exact ⟨rfl, rfl, rfl⟩
  | cons o rest ih =>
    obtain ⟨left, shown⟩ := h.spends o
    obtain ⟨places, seeds, later⟩ := ih (h.step o)
    rw [left] at places seeds later
    have width := Draw.map_width_inRow v.seeds.position (v.purposes engines o)
    rw [Server.draws, run, Server.sightings, List.map_append, List.sum_append, width]
    refine ⟨?_, ?_, ?_⟩
    · rw [List.flatMap_append, Draw.flatMap_places_inRow, places]
      exact List.range'_append_1
    · rw [seeds, SeedStream.skip_skip]
    · rw [List.filterMap_append, shown, later]
      rfl

end Server

end Attest
