import Attest.Proofs.Session.Settlement

/-!
# Sessions under one source of seeds

A `Server` is the sessions of an engine together with the seeds that they have left. It is asked to
start sessions and to visit them, in any order; a start and a visit find the seeds that all visits
before have left, so the seeds are what the sessions share.

* `Server.Sound.after` : all sessions of a server stay sound;
* `Server.getElem?_after` : what becomes of one session is told by the calls on it
  (`Server.calls`), whatever is done to the others;
* `Server.map_visit_calls` : these calls are the visits to it, with the seeds that each one finds.
-/

namespace Attest

/-! ### Orders -/

/-- A call on a session, less the seeds. -/
inductive Visit where
  /-- A payload of the client arrives. -/
  | receive (payload : Bytes) (now : Nat)
  /-- Time has gone by. -/
  | tick (now : Nat)
  deriving DecidableEq, Repr

/-- The call of a visit that finds these seeds. -/
def Visit.call (seeds : SeedStream) : Visit → Call
  | receive payload now => .receive payload now
  | tick now => .tick now seeds

/-- The visit of a call. -/
def Call.visit : Call → Visit
  | receive payload now => .receive payload now
  | tick now _ => .tick now

@[simp] theorem Visit.visit_call (seeds : SeedStream) (visit : Visit) :
    (visit.call seeds).visit = visit := by
  cases visit <;> rfl

/-- What a server is asked to do. -/
inductive Order where
  /-- Start a session. -/
  | start (account : UInt32) (build : Build) (secret : Bytes) (now : Nat)
  /-- Visit a session; sessions are counted from zero, in the order of their starts. -/
  | visit (who : Nat) (visit : Visit)
  deriving DecidableEq, Repr

/-- The visit to this session that is ordered, if one is. -/
def Order.visitTo? (who : Nat) : Order → Option Visit
  | start .. => none
  | visit other v => if other = who then some v else none

/-- The seeds that a session leaves behind a visit. -/
def Session.seedsLeft (engine : Engine) (s : Session) (seeds : SeedStream) : Visit → SeedStream
  | .receive .. => seeds
  | .tick now => (s.tick engine now seeds).2

/-! ### Servers -/

/-- The sessions of an engine and the seeds that they have left. -/
structure Server where
  /-- The sessions, in the order of their starts. -/
  sessions : List Session
  seeds : SeedStream

namespace Server

/-- The server without sessions. -/
def fresh (seeds : SeedStream) : Server := ⟨[], seeds⟩

/-- Does what is asked. A start that fails leaves no session behind, and a visit to a session that
was not started does nothing. -/
def next (engine : Engine) (v : Server) : Order → Server
  | .start account build secret now =>
    let (started, seeds) := Session.start engine account build secret now v.seeds
    ⟨v.sessions ++ (started.toOption.map Prod.snd).toList, seeds⟩
  | .visit who visit =>
    match v.sessions[who]? with
    | none => v
    | some s =>
      ⟨v.sessions.set who (s.call engine (visit.call v.seeds)).session,
        s.seedsLeft engine v.seeds visit⟩

/-- The server after a row of orders. -/
def after (engine : Engine) (v : Server) : List Order → Server
  | [] => v
  | o :: rest => after engine (v.next engine o) rest

/-- The calls on a session that orders come to, with the seeds that each one finds. -/
def calls (engine : Engine) (v : Server) (who : Nat) : List Order → List Call
  | [] => []
  | o :: rest =>
    ((o.visitTo? who).map (Visit.call v.seeds)).toList ++ calls engine (v.next engine o) who rest

variable {engine : Engine} {v : Server}

theorem next_start {account : UInt32} {build : Build} {secret : Bytes} {now : Nat} {wire : Bytes}
    {s : Session} (started : (Session.start engine account build secret now v.seeds).1 =
      .ok (wire, s)) :
    (v.next engine (.start account build secret now)).sessions = v.sessions ++ [s] := by
  simp only [next, started]
  rfl

theorem next_visit {who : Nat} {s : Session} (here : v.sessions[who]? = some s) (visit : Visit) :
    v.next engine (.visit who visit) =
      ⟨v.sessions.set who (s.call engine (visit.call v.seeds)).session,
        s.seedsLeft engine v.seeds visit⟩ := by
  simp only [next, here]

/-! ### Sound servers -/

/-- Whether all sessions are sound. -/
def Sound (engine : Engine) (v : Server) : Prop :=
  ∀ s ∈ v.sessions, s.Sound engine

theorem sound_fresh (engine : Engine) (seeds : SeedStream) : (fresh seeds).Sound engine :=
  fun _ hs => absurd hs List.not_mem_nil

theorem Sound.next (h : v.Sound engine) (o : Order) : (v.next engine o).Sound engine := by
  intro s hs
  cases o with
  | start account build secret now =>
    rcases started : Session.start engine account build secret now v.seeds with
      ⟨fault | ⟨wire, t⟩, later⟩
    · simp only [Server.next, started] at hs
      exact h s (by simpa [Except.toOption] using hs)
    · rw [next_start (congrArg Prod.fst started)] at hs
      rcases List.mem_append.1 hs with old | new
      · exact h s old
      · rw [List.mem_singleton] at new
        subst new
        exact Session.sound_of_start started
  | visit who visit =>
    cases here : v.sessions[who]? with
    | none =>
      simp only [Server.next, here] at hs
      exact h s hs
    | some t =>
      rw [next_visit here] at hs
      rcases List.mem_or_eq_of_mem_set hs with old | rfl
      · exact h s old
      · exact (h t (List.mem_of_getElem? here)).call _

/-- **All sessions of a server stay sound**, whatever it is asked. -/
theorem Sound.after (h : v.Sound engine) (orders : List Order) :
    (v.after engine orders).Sound engine := by
  induction orders generalizing v with
  | nil => exact h
  | cons o rest ih => exact ih (h.next o)

/-- Whether a server may come about, from some seeds and by some orders. -/
def Reachable (engine : Engine) (v : Server) : Prop :=
  ∃ seeds orders, v = (fresh seeds).after engine orders

theorem Reachable.sound (h : v.Reachable engine) : v.Sound engine := by
  obtain ⟨seeds, orders, rfl⟩ := h
  exact (sound_fresh engine seeds).after orders

/-! ### One session -/

/-- What an order does to a session is what its visit does to it, if it has one. -/
theorem getElem?_next {who : Nat} {s : Session} (here : v.sessions[who]? = some s) (o : Order) :
    (v.next engine o).sessions[who]? =
      some (s.after engine ((o.visitTo? who).map (Visit.call v.seeds)).toList) := by
  obtain ⟨bound, -⟩ := List.getElem?_eq_some_iff.1 here
  cases o with
  | start =>
    simpa [next, List.getElem?_append_left bound, Order.visitTo?, Session.after] using here
  | visit other visit =>
    by_cases own : other = who
    · subst own
      rw [next_visit here]
      simp [Order.visitTo?, bound, Session.after]
    · -- a visit to another session, or to none
      cases elsewhere : v.sessions[other]? with
      | none => simpa [next, elsewhere, Order.visitTo?, own, Session.after] using here
      | some t =>
        rw [next_visit elsewhere]
        simpa [Order.visitTo?, own, List.getElem?_set_ne own, Session.after] using here

/-- A session of a server is the one that its calls lead to. -/
theorem getElem?_after {who : Nat} {s : Session} (here : v.sessions[who]? = some s)
    (orders : List Order) :
    (v.after engine orders).sessions[who]? =
      some (s.after engine (v.calls engine who orders)) := by
  induction orders generalizing v s with
  | nil => exact here
  | cons o rest ih =>
    rw [after, calls, Session.after_append]
    exact ih (getElem?_next here o)

/-- The calls on a session are the visits to it, but for the seeds. -/
theorem map_visit_calls (engine : Engine) (v : Server) (who : Nat) (orders : List Order) :
    (v.calls engine who orders).map Call.visit = orders.filterMap (Order.visitTo? who) := by
  induction orders generalizing v with
  | nil => rfl
  | cons o rest ih =>
    rw [calls, List.map_append, ih]
    cases visited : o.visitTo? who with
    | none => simp [visited]
    | some visit => simp [visited]

end Server

end Attest
