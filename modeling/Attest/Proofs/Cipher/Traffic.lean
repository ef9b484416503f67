import Attest.Proofs.Cipher.Stream
import Mathlib.Data.List.Infix
import Mathlib.Logic.Function.Basic

/-!
# Traffic between the two sides

The two sides of a session speak and listen in any order, and either of them may arm its ciphers
with other keys at any time (`Move`). What one side has sealed reaches the other one in order, and
as late as the other one listens (`act`). Nothing of this is known to the ciphers: each sees the
bytes of one direction only.

`Sound` is what every move preserves (`Sound.step`): what the ciphers of a side made of the bytes of
each direction is told by the points at which that side was armed, and what has reached a side is an
initial part of what was sent. A direction is `Matched` if its two ends were armed at the same
points of it. `traffic_mirrored` says that a side then hears what the other one has said, whatever
happens in the other direction.
-/

namespace Attest

/-- The sides of a session. -/
inductive Side where
  | server
  | client
  deriving DecidableEq

namespace Side

/-- The side that a side speaks to. -/
def other : Side → Side
  | server => client
  | client => server

/-- The key for what a side sends. -/
def key : Side → Keys → Key
  | server, keys => keys.outbound
  | client, keys => keys.inbound

/-- The ciphers of a side. -/
def arm : Side → Keys → CipherPair
  | server, keys => .server keys
  | client, keys => .client keys

@[simp] theorem other_other (side : Side) : side.other.other = side := by
  cases side <;> rfl

theorem other_ne (side : Side) : side.other ≠ side := by
  cases side <;> nofun

theorem eq_or_eq_other (a b : Side) : a = b ∨ a = b.other := by
  cases a <;> cases b <;> decide

theorem send_arm (side : Side) (keys : Keys) :
    (side.arm keys).send = Rc4.ofKey (side.key keys).toList := by
  cases side <;> rfl

theorem receive_arm (side : Side) (keys : Keys) :
    (side.arm keys).receive = Rc4.ofKey (side.other.key keys).toList := by
  cases side <;> rfl

end Side

namespace Traffic

/-! ### Moves -/

/-- One side's ciphers, and all that went through them. -/
structure End where
  ciphers : CipherPair
  /-- When the sending cipher was armed anew. -/
  sending : List Arming := []
  /-- When the receiving cipher was armed anew. -/
  receiving : List Arming := []
  /-- The messages that were sealed. -/
  spoken : List Bytes := []
  /-- What became of them. -/
  sent : List Bytes := []
  /-- What has come from the other side. -/
  received : List Bytes := []
  /-- What it was opened to. -/
  heard : List Bytes := []

/-- Seals a message. -/
def End.speak (e : End) (message : Bytes) : End :=
  let (wire, ciphers) := e.ciphers.sealed message
  { e with ciphers, spoken := e.spoken ++ [message], sent := e.sent ++ [wire] }

/-- Opens what has come. -/
def End.hear (e : End) (wire : Bytes) : End :=
  let (message, ciphers) := e.ciphers.opened wire
  { e with ciphers, received := e.received ++ [wire], heard := e.heard ++ [message] }

/-- Arms both ciphers with other keys. -/
def End.rearm (e : End) (side : Side) (keys : Keys) : End :=
  { e with
    ciphers := side.arm keys
    sending := e.sending ++ [⟨side.key keys, e.spoken.flatten.length⟩]
    receiving := e.receiving ++ [⟨side.other.key keys, e.received.flatten.length⟩] }

/-- What a side does next. -/
inductive Move where
  /-- It says a message. -/
  | speak (side : Side) (message : Bytes)
  /-- It listens to the next of the messages that are under way to it. -/
  | hear (side : Side)
  /-- It changes to other keys. -/
  | rearm (side : Side) (keys : Keys)

/-- The side that moves. -/
def Move.side : Move → Side
  | speak side _ => side
  | hear side => side
  | rearm side _ => side

/-- The message that a side says. -/
def Move.said (side : Side) : Move → Option Bytes
  | speak speaker message => if speaker = side then some message else none
  | hear _ => none
  | rearm .. => none

/-- What is next under way to a side. -/
def next (ends : Side → End) (side : Side) : Option Bytes :=
  (ends side.other).sent[(ends side).received.length]?

/-- The side that moves, after its move. If nothing is under way to it, it hears nothing. -/
def act (ends : Side → End) : Move → End
  | .speak side message => (ends side).speak message
  | .hear side =>
    match next ends side with
    | some wire => (ends side).hear wire
    | none => ends side
  | .rearm side keys => (ends side).rearm side keys

/-- Both sides after a move. -/
def step (ends : Side → End) (m : Move) : Side → End :=
  Function.update ends m.side (act ends m)

/-- The sides of a session under these keys. -/
def start (keys : Keys) (side : Side) : End :=
  { ciphers := side.arm keys }

/-- The sides after a row of moves. -/
def run (keys : Keys) (moves : List Move) : Side → End :=
  moves.foldl step (start keys)

/-! ### What a move preserves -/

/-- Whether the ciphers of a side made of the bytes of each direction what the armings tell. -/
structure Kept (keys : Keys) (side : Side) (e : End) : Prop where
  sends : Passed (side.key keys) e.sending e.spoken.flatten e.sent.flatten e.ciphers.send
  receives :
    Passed (side.other.key keys) e.receiving e.received.flatten e.heard.flatten e.ciphers.receive
  length_sent : e.sent.map List.length = e.spoken.map List.length
  length_heard : e.heard.map List.length = e.received.map List.length

variable {keys : Keys} {side : Side} {e : End} {ends : Side → End}

theorem kept_start (keys : Keys) (side : Side) : Kept keys side (start keys side) where
  sends := by
    rw [start, Side.send_arm]
    exact Passed.start _
  receives := by
    rw [start, Side.receive_arm]
    exact Passed.start _
  length_sent := rfl
  length_heard := rfl

theorem Kept.speak (h : Kept keys side e) (message : Bytes) : Kept keys side (e.speak message) where
  sends := by
    have more := h.sends.apply message
    simpa [End.speak, CipherPair.sealed] using more
  receives := h.receives
  length_sent := by simp [End.speak, h.length_sent]
  length_heard := h.length_heard

theorem Kept.hear (h : Kept keys side e) (wire : Bytes) : Kept keys side (e.hear wire) where
  sends := h.sends
  receives := by
    have more := h.receives.apply wire
    simpa [End.hear, CipherPair.opened] using more
  length_sent := h.length_sent
  length_heard := by simp [End.hear, CipherPair.opened, h.length_heard]

theorem Kept.rearm (h : Kept keys side e) (keys' : Keys) :
    Kept keys side (e.rearm side keys') where
  sends := by
    rw [End.rearm, Side.send_arm]
    exact h.sends.arm _
  receives := by
    rw [End.rearm, Side.receive_arm]
    exact h.receives.arm _
  length_sent := h.length_sent
  length_heard := h.length_heard

/-- What holds of both sides together. -/
structure Sound (keys : Keys) (ends : Side → End) : Prop where
  kept : ∀ side, Kept keys side (ends side)
  /-- What has reached a side is the beginning of what was sent to it. -/
  order : ∀ side, (ends side).received <+: (ends side.other).sent

theorem sound_start (keys : Keys) : Sound keys (start keys) :=
  ⟨kept_start keys, fun _ => List.nil_prefix⟩

/-- One side may go on as long as it takes nothing back and hears only what was sent. -/
theorem Sound.update (h : Sound keys ends) (kept : Kept keys side e)
    (sent : (ends side).sent <+: e.sent) (received : e.received <+: (ends side.other).sent) :
    Sound keys (Function.update ends side e) where
  kept := Function.forall_update_iff ends (p := fun side e => Kept keys side e) |>.2
    ⟨kept, fun side _ => h.kept side⟩
  order listener := by
    rcases listener.eq_or_eq_other side with rfl | rfl
    · rw [Function.update_self, Function.update_of_ne listener.other_ne]
      exact received
    · rw [Function.update_of_ne side.other_ne, Side.other_other, Function.update_self]
      have reached := h.order side.other
      rw [Side.other_other] at reached
      exact reached.trans sent

theorem received_append_next {wire : Bytes}
    (order : (ends side).received <+: (ends side.other).sent) (h : next ends side = some wire) :
    (ends side).received ++ [wire] <+: (ends side.other).sent := by
  obtain ⟨rest, split⟩ := order
  rw [next, ← split, List.getElem?_append_right (Nat.le_refl _), Nat.sub_self] at h
  cases rest with
  | nil => cases h
  | cons first more =>
    cases h
    exact ⟨more, (List.append_cons ..).symm.trans split⟩

theorem Sound.step (h : Sound keys ends) (m : Move) : Sound keys (step ends m) := by
  cases m with
  | speak side message =>
    exact h.update ((h.kept side).speak message) (List.prefix_append _ _) (h.order side)
  | hear side =>
    rw [Traffic.step, act]
    split
    case h_1 wire coming =>
      exact h.update ((h.kept side).hear wire) List.prefix_rfl
        (received_append_next (h.order side) coming)
    case h_2 => exact h.update (h.kept side) List.prefix_rfl (h.order side)
  | rearm side keys' =>
    exact h.update ((h.kept side).rearm keys') List.prefix_rfl (h.order side)

theorem sound_run (keys : Keys) (moves : List Move) : Sound keys (run keys moves) := by
  -- from any sound ends, since the induction moves them on
  suffices ∀ ends, Sound keys ends → Sound keys (moves.foldl step ends) from
    this _ (sound_start keys)
  induction moves with
  | nil => exact fun _ h => h
  | cons m rest ih => exact fun ends h => ih _ (h.step m)

/-- A side has spoken what it said in the moves. -/
theorem spoken_step (ends : Side → End) (m : Move) (side : Side) :
    (step ends m side).spoken = (ends side).spoken ++ (m.said side).toList := by
  by_cases moves : side = m.side
  · subst moves
    rw [step, Function.update_self]
    cases m with
    | speak side message => simp [act, End.speak, Move.said, Move.side]
    | hear side =>
      rw [act]
      split <;> simp [End.hear, Move.said, Move.side]
    | rearm side keys => simp [act, End.rearm, Move.said, Move.side]
  · rw [step, Function.update_of_ne moves]
    cases m with
    | speak speaker message => simp [Move.said, show speaker ≠ side from Ne.symm moves]
    | hear listener => simp [Move.said]
    | rearm mover keys => simp [Move.said]

theorem spoken_run (keys : Keys) (moves : List Move) (side : Side) :
    (run keys moves side).spoken = moves.filterMap (Move.said side) := by
  suffices ∀ ends : Side → End, (moves.foldl step ends side).spoken =
      (ends side).spoken ++ moves.filterMap (Move.said side) from this _
  induction moves with
  | nil => exact fun ends => (List.append_nil _).symm
  | cons m rest ih =>
    intro ends
    rw [List.foldl_cons, ih, spoken_step, List.append_assoc, List.filterMap_cons]
    cases m.said side <;> rfl

/-! ### Matched directions -/

/-- Whether the two ends of the direction from a side were armed with the same keys at the same
points of it, as far as both have come. -/
def Matched (ends : Side → End) (side : Side) : Prop :=
  ∃ schedule, Arming.Follows schedule (ends side).sending (ends side).spoken.flatten.length ∧
    Arming.Follows schedule (ends side.other).receiving
      (ends side.other).received.flatten.length

/-- Messages of the same lengths are told apart by their bytes. -/
theorem prefix_of_flatten {xs ys : List Bytes} (lengths : xs.map List.length <+: ys.map List.length)
    (bytes : xs.flatten <+: ys.flatten) : xs <+: ys := by
  induction xs generalizing ys with
  | nil => exact List.nil_prefix
  | cons x xs ih =>
    cases ys with
    | nil => simp at lengths
    | cons y ys =>
      obtain ⟨same, shorter⟩ := List.cons_prefix_cons.1 lengths
      obtain ⟨rest, split⟩ := bytes
      rw [List.flatten_cons, List.flatten_cons, List.append_assoc] at split
      -- the first messages are equally long, so the bytes are split at one place
      obtain ⟨rfl, behind⟩ := List.append_inj split same
      exact List.cons_prefix_cons.2 ⟨rfl, ih shorter ⟨rest, behind⟩⟩

theorem Sound.heard_in_order (h : Sound keys ends) (matched : Matched ends side) :
    (ends side.other).heard <+: (ends side).spoken := by
  obtain ⟨schedule, sending, receiving⟩ := matched
  have order := h.order side.other
  have receives := (h.kept side.other).receives
  rw [Side.other_other] at order receives
  refine prefix_of_flatten ?_ ?_
  · rw [(h.kept side.other).length_heard, ← (h.kept side).length_sent]
    exact order.map _
  · exact (h.kept side).sends.opened receives order.flatten sending receiving

theorem Sound.heard_eq (h : Sound keys ends) (matched : Matched ends side)
    (all : (ends side.other).received = (ends side).sent) :
    (ends side.other).heard = (ends side).spoken := by
  refine (h.heard_in_order matched).eq_of_length ?_
  have heard := congrArg List.length (h.kept side.other).length_heard
  have sent := congrArg List.length (h.kept side).length_sent
  simp only [List.length_map, all] at heard sent
  exact heard.trans sent

/-- A side that does not change its keys is not armed anew. -/
theorem armings_step (ends : Side → End) {m : Move} (h : ∀ side keys, m ≠ .rearm side keys)
    (side : Side) :
    (step ends m side).sending = (ends side).sending ∧
      (step ends m side).receiving = (ends side).receiving := by
  by_cases moves : side = m.side
  · subst moves
    rw [step, Function.update_self]
    cases m with
    | speak side message => exact ⟨rfl, rfl⟩
    | hear side =>
      rw [act]
      split <;> exact ⟨rfl, rfl⟩
    | rearm side keys => exact absurd rfl (h side keys)
  · rw [step, Function.update_of_ne moves]
    exact ⟨rfl, rfl⟩

theorem armings_run (keys : Keys) {moves : List Move}
    (h : ∀ side keys', Move.rearm side keys' ∉ moves) (side : Side) :
    (run keys moves side).sending = [] ∧ (run keys moves side).receiving = [] := by
  suffices ∀ ends : Side → End,
      (moves.foldl step ends side).sending = (ends side).sending ∧
      (moves.foldl step ends side).receiving = (ends side).receiving from this _
  induction moves with
  | nil => exact fun _ => ⟨rfl, rfl⟩
  | cons m rest ih =>
    intro ends
    obtain ⟨sending, receiving⟩ := armings_step ends
      (fun side keys' is => h side keys' (is ▸ List.mem_cons_self)) side
    obtain ⟨sending', receiving'⟩ :=
      ih (fun side keys' mem => h side keys' (List.mem_cons_of_mem m mem)) (step ends m)
    exact ⟨sending'.trans sending, receiving'.trans receiving⟩

theorem matched_of_not_rearmed (keys : Keys) {moves : List Move}
    (h : ∀ side keys', Move.rearm side keys' ∉ moves) (side : Side) :
    Matched (run keys moves) side := by
  refine ⟨[], ?_, ?_⟩
  · rw [(armings_run keys h side).1]
    exact Arming.follows_refl _ _
  · rw [(armings_run keys h side.other).2]
    exact Arming.follows_refl _ _

/-- **The two sides mirror each other under any traffic.** In every run of moves:

* what a side hears is what the other one said, in order and message by message, if the two ends of
  that direction were armed with the same keys at the same points of it; all that was sent and has
  come is heard;
* that is so in both directions if no side changes its keys;
* what goes over the wire in a direction depends on the bytes that were said in it and on when its
  ends were armed, but not on how the bytes are split into messages or on the other direction; the
  same goes for what is heard. -/
theorem traffic_mirrored (keys : Keys) (moves : List Move) :
    (∀ side, Matched (run keys moves) side →
      (run keys moves side.other).heard <+: moves.filterMap (Move.said side) ∧
      ((run keys moves side.other).received = (run keys moves side).sent →
        (run keys moves side.other).heard = moves.filterMap (Move.said side))) ∧
    ((∀ side keys', Move.rearm side keys' ∉ moves) → ∀ side, Matched (run keys moves) side) ∧
    ∀ moves' side,
      ((moves.filterMap (Move.said side)).flatten = (moves'.filterMap (Move.said side)).flatten →
        (run keys moves side).sending = (run keys moves' side).sending →
        (run keys moves side).sent.flatten = (run keys moves' side).sent.flatten) ∧
      ((run keys moves side).received.flatten = (run keys moves' side).received.flatten →
        (run keys moves side).receiving = (run keys moves' side).receiving →
        (run keys moves side).heard.flatten = (run keys moves' side).heard.flatten) := by
  have sound := sound_run keys moves
  refine ⟨fun side matched => ?_, matched_of_not_rearmed keys, fun moves' side => ⟨?_, ?_⟩⟩
  · rw [← spoken_run keys moves side]
    exact ⟨sound.heard_in_order matched, sound.heard_eq matched⟩
  · intro bytes armings
    rw [← spoken_run keys moves side, ← spoken_run keys moves' side] at bytes
    have there := (sound.kept side).sends
    have here := ((sound_run keys moves').kept side).sends
    rw [bytes, armings] at there
    exact there.combined.trans here.combined.symm
  · intro bytes armings
    have there := (sound.kept side).receives
    have here := ((sound_run keys moves').kept side).receives
    rw [bytes, armings] at there
    exact there.combined.trans here.combined.symm

/-- The keys at the start of a run. -/
def oldKeys : Keys := ⟨Vector.replicate 16 1, Vector.replicate 16 2, Vector.replicate 16 0⟩

/-- Other keys. -/
def newKeys : Keys := ⟨Vector.replicate 16 3, Vector.replicate 16 4, Vector.replicate 16 0⟩

/-- The server changes its keys while a message to the client is under way, and sends another one;
the client changes its keys between the two. -/
def rekeying : List Move :=
  [.speak .server [1, 2, 3], .speak .client [9], .hear .server, .rearm .server newKeys,
    .speak .server [4], .hear .client, .rearm .client newKeys, .hear .client,
    .speak .client [5], .hear .server]

theorem rekeying_mirrored :
    (∀ side, Matched (run oldKeys rekeying) side) ∧
      (run oldKeys rekeying .client).heard = [[1, 2, 3], [4]] ∧
      (run oldKeys rekeying .server).heard = [[9], [5]] := by
  have ends : ∀ side,
      (run oldKeys rekeying side).sending = (run oldKeys rekeying side.other).receiving ∧
        (run oldKeys rekeying side.other).received = (run oldKeys rekeying side).sent := by
    intro side
    cases side <;> simp [run, rekeying, step, act, start, next, Move.side, Side.other, Side.key,
      End.speak, End.hear, End.rearm]
  have matched : ∀ side, Matched (run oldKeys rekeying) side := by
    intro side
    refine ⟨_, Arming.follows_refl _ _, ?_⟩
    rw [(ends side).1]
    exact Arming.follows_refl _ _
  obtain ⟨mirrored, -⟩ := traffic_mirrored oldKeys rekeying
  have toClient := (mirrored .server (matched .server)).2 (ends .server).2
  have toServer := (mirrored .client (matched .client)).2 (ends .client).2
  exact ⟨matched, toClient, toServer⟩

end Traffic

end Attest
