import Attest.Keys
import Attest.Proofs.Cipher
import Mathlib.Data.List.Induction

/-!
# What goes through a cipher

The bytes that go through a cipher are a stream, and they may do so in pieces of any length. A
cipher that is armed with another key starts anew, at some place of its stream. So the cipher at a
place is told by the last arming before (`Arming.inForce`), and what a byte of the stream is
combined with depends on the armings and its place only (`Arming.pad`).

* `Passed` : what a cipher made of a stream is the stream combined with its pad, whatever the pieces
  are (`Passed.apply`) and wherever it was armed (`Passed.arm`).
* `Arming.Follows` : a cipher was armed as a schedule has it, and has not gone past the places where
  it is still to be armed.
* `Passed.opened` : two ciphers that follow one schedule undo each other.
-/

namespace Attest

/-- A cipher is armed with a key at a place of its stream. -/
structure Arming where
  key : Key
  /-- How many bytes went through before. -/
  place : Nat
  deriving DecidableEq

namespace Arming

/-! ### The pad of a stream -/

/-- The last arming at a place or before it, of a cipher that had a first key from the start. -/
def inForce (first : Key) (armings : List Arming) (n : Nat) : Arming :=
  armings.foldl (fun last a => if a.place ≤ n then a else last) ⟨first, 0⟩

/-- The cipher at a place of its stream. -/
def cipherAt (first : Key) (armings : List Arming) (n : Nat) : Rc4 :=
  (Rc4.ofKey (inForce first armings n).key.toList).advance (n - (inForce first armings n).place)

/-- What the first `n` bytes of a stream are combined with. -/
def pad (first : Key) (armings : List Arming) (n : Nat) : Bytes :=
  (List.range n).map fun i => (cipherAt first armings i).step.output

variable {first : Key} {armings later : List Arming} {m n : Nat}

theorem inForce_concat (a : Arming) :
    inForce first (armings ++ [a]) n = if a.place ≤ n then a else inForce first armings n := by
  rw [inForce, List.foldl_append]
  rfl

theorem place_inForce_le : (inForce first armings n).place ≤ n := by
  induction armings using List.reverseRecOn with
  | nil => exact Nat.zero_le n
  | append_singleton armings a ih =>
    rw [inForce_concat]
    split
    case isTrue reached => exact reached
    case isFalse => exact ih

/-- Behind all armings the last one stays in force. -/
theorem inForce_add (past : ∀ a ∈ armings, a.place ≤ n) (k : Nat) :
    inForce first armings (n + k) = inForce first armings n := by
  induction armings using List.reverseRecOn with
  | nil => rfl
  | append_singleton armings a _ =>
    have reached : a.place ≤ n := past a (by simp)
    rw [inForce_concat, inForce_concat, if_pos reached, if_pos (by omega)]

/-- An arming is not in force ahead of its place. -/
theorem inForce_append (ahead : ∀ a ∈ later, n < a.place) :
    inForce first (armings ++ later) n = inForce first armings n := by
  induction later using List.reverseRecOn with
  | nil => rw [List.append_nil]
  | append_singleton later a ih =>
    have notYet : ¬ a.place ≤ n := Nat.not_le.2 (ahead a (by simp))
    rw [← List.append_assoc, inForce_concat, if_neg notYet]
    exact ih fun b hb => ahead b (List.mem_append_left _ hb)

theorem cipherAt_add (past : ∀ a ∈ armings, a.place ≤ n) (k : Nat) :
    cipherAt first armings (n + k) = (cipherAt first armings n).advance k := by
  have reached : (inForce first armings n).place ≤ n := place_inForce_le
  rw [cipherAt, cipherAt, inForce_add past, ← Rc4.advance_add]
  congr 1
  omega

/-- A cipher that is armed starts anew. -/
theorem cipherAt_concat (key : Key) :
    cipherAt first (armings ++ [⟨key, n⟩]) n = Rc4.ofKey key.toList := by
  rw [cipherAt, inForce_concat, if_pos (Nat.le_refl n), Nat.sub_self, Rc4.advance_zero]

theorem length_pad : (pad first armings n).length = n := by
  rw [pad, List.length_map, List.length_range]

theorem take_pad (few : m ≤ n) : (pad first armings n).take m = pad first armings m := by
  rw [pad, pad, ← List.map_take, List.take_range, Nat.min_eq_left few]

/-- Behind all armings the pad goes on with what the cipher yields. -/
theorem pad_add (past : ∀ a ∈ armings, a.place ≤ n) (k : Nat) :
    pad first armings (n + k) =
      pad first armings n ++ (cipherAt first armings n).keystream k := by
  rw [pad, pad, List.range_add, List.map_append, List.map_map, Rc4.keystream_eq_map]
  refine congrArg (_ ++ ·) (List.map_congr_left fun i _ => ?_)
  rw [Function.comp_apply, cipherAt_add past]

/-- Armings ahead make no difference to the pad. -/
theorem pad_append (ahead : ∀ a ∈ later, n ≤ a.place) :
    pad first (armings ++ later) n = pad first armings n := by
  rw [pad, pad]
  refine List.map_congr_left fun i hi => ?_
  have before : i < n := List.mem_range.1 hi
  have same : inForce first (armings ++ later) i = inForce first armings i :=
    inForce_append fun a ha => Nat.lt_of_lt_of_le before (ahead a ha)
  rw [cipherAt, cipherAt, same]

/-! ### Schedules -/

/-- Whether a cipher that `n` bytes went through was armed as a schedule has it: its armings are an
initial part of the schedule, and it has not gone past the place of any other. -/
def Follows (schedule armings : List Arming) (n : Nat) : Prop :=
  ∃ later, schedule = armings ++ later ∧ ∀ a ∈ later, n ≤ a.place

theorem follows_refl (armings : List Arming) (n : Nat) : Follows armings armings n :=
  ⟨[], (List.append_nil armings).symm, nofun⟩

theorem Follows.pad_eq {schedule : List Arming} (h : Follows schedule armings n) :
    pad first armings n = pad first schedule n := by
  obtain ⟨later, rfl, ahead⟩ := h
  exact (pad_append ahead).symm

end Arming

/-! ### Streams -/

open Arming (pad cipherAt place Follows)

/-- What went through a cipher, and what came out. -/
structure Passed (first : Key) (armings : List Arming) (input output : Bytes) (cipher : Rc4) :
    Prop where
  past : ∀ a ∈ armings, a.place ≤ input.length
  combined : output = Bytes.xor input (pad first armings input.length)
  cipher_eq : cipher = cipherAt first armings input.length

namespace Passed

variable {first : Key} {armings : List Arming} {input output : Bytes} {cipher : Rc4}

theorem start (key : Key) : Passed key [] [] [] (Rc4.ofKey key.toList) :=
  ⟨nofun, rfl, rfl⟩

/-- One more piece goes through. -/
theorem apply (h : Passed first armings input output cipher) (piece : Bytes) :
    Passed first armings (input ++ piece) (output ++ (cipher.apply piece).1)
      (cipher.apply piece).2 where
  past a ha := by
    rw [List.length_append]
    exact Nat.le_add_right_of_le (h.past a ha)
  combined := by
    rw [List.length_append, Arming.pad_add h.past, ← h.cipher_eq, Rc4.apply_eq, Bytes.xor_append,
      h.combined]
    exact Arming.length_pad.symm
  cipher_eq := by
    rw [Rc4.apply_snd, List.length_append, Arming.cipherAt_add h.past, ← h.cipher_eq]

/-- The cipher is armed with another key. -/
theorem arm (h : Passed first armings input output cipher) (key : Key) :
    Passed first (armings ++ [⟨key, input.length⟩]) input output (Rc4.ofKey key.toList) where
  past a ha := by
    rcases List.mem_append.1 ha with ha | ha
    · exact h.past a ha
    · exact Nat.le_of_eq (congrArg place (List.mem_singleton.1 ha))
  combined := by
    rw [Arming.pad_append (by simp)]
    exact h.combined
  cipher_eq := (Arming.cipherAt_concat key).symm

/-- Ciphers that follow one schedule undo each other. -/
theorem opened {schedule armings' : List Arming} {plain wire arrived heard : Bytes}
    {sender receiver : Rc4} (sent : Passed first armings plain wire sender)
    (received : Passed first armings' arrived heard receiver) (order : arrived <+: wire)
    (sending : Follows schedule armings plain.length)
    (receiving : Follows schedule armings' arrived.length) : heard <+: plain := by
  have few : arrived.length ≤ plain.length := by
    have same : wire.length = plain.length := by
      rw [sent.combined, Bytes.xor, List.length_zipWith, Arming.length_pad, Nat.min_self]
    exact same ▸ order.length_le
  -- both pads are initial parts of the schedule's pad, up to as much as has arrived
  have beginning : arrived = Bytes.xor (plain.take arrived.length)
      (pad first schedule arrived.length) := by
    refine (List.prefix_iff_eq_take.1 order).trans ?_
    rw [sent.combined, Bytes.xor, List.take_zipWith, sending.pad_eq, Arming.take_pad few]
    rfl
  have undone : heard = plain.take arrived.length := by
    rw [received.combined, receiving.pad_eq]
    conv => enter [1, 1]; rw [beginning]
    refine Bytes.xor_xor ?_
    rw [Arming.length_pad, List.length_take, Nat.min_eq_left few]
  rw [undone]
  exact List.take_prefix _ _

end Passed

end Attest
