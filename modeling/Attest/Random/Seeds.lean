import Attest.Random.ChaCha20

/-!
# The source of seeds

One sequence of random words serves all sessions. `SeedStream` is a position in the sequence of a
key: a draw answers the word at the position and moves on by one, so no word is drawn twice.
-/

namespace Attest

/-- A position in the word sequence of a key. -/
structure SeedStream where
  key : ChaCha20.Key
  /-- How many words were drawn. -/
  position : Nat
  deriving DecidableEq

namespace SeedStream

/-- The successor in the congruential sequence that a 64-bit seed is spread with. -/
def spreadNext (state : UInt64) : UInt64 :=
  state * 6364136223846793005 + 11634580027462260723

/-- The word of a state of that sequence: its high bits, turned by its five highest. -/
def spreadWord (state : UInt64) : UInt32 :=
  let x := (((state >>> 18) ^^^ state) >>> 27).toUInt32
  let turn := (state >>> 59).toUInt32
  (x >>> turn) ||| (x <<< ((32 - turn) % 32))

/-- The state after `n` steps of that sequence. -/
def spreadState (seed : UInt64) : Nat → UInt64
  | 0 => seed
  | n + 1 => spreadNext (spreadState seed n)

/-- The stream of a 64-bit seed, at its start. -/
def ofSeed (seed : UInt64) : SeedStream :=
  ⟨Vector.ofFn fun n => spreadWord (spreadState seed (n.val + 1)), 0⟩

/-- The word `n` places ahead. -/
def ahead (s : SeedStream) (n : Nat) : UInt32 :=
  ChaCha20.word s.key (s.position + n)

/-- The stream after `n` words were drawn. -/
def skip (s : SeedStream) (n : Nat) : SeedStream :=
  { s with position := s.position + n }

/-- Draws one word. -/
def next32 (s : SeedStream) : UInt32 × SeedStream :=
  (s.ahead 0, s.skip 1)

/-- Draws two words, the low half first. -/
def next64 (s : SeedStream) : UInt64 × SeedStream :=
  ((s.ahead 1).toUInt64 <<< 32 ||| (s.ahead 0).toUInt64, s.skip 2)

/-- The next `n` words. -/
def words (s : SeedStream) (n : Nat) : List UInt32 :=
  (List.range n).map s.ahead

@[simp] theorem skip_zero (s : SeedStream) : s.skip 0 = s := rfl

@[simp] theorem skip_skip (s : SeedStream) (m n : Nat) : (s.skip m).skip n = s.skip (m + n) := by
  simp only [skip, Nat.add_assoc]

theorem ahead_skip (s : SeedStream) (m n : Nat) : (s.skip m).ahead n = s.ahead (m + n) := by
  simp only [skip, ahead, Nat.add_assoc]

@[simp] theorem words_zero (s : SeedStream) : s.words 0 = [] := rfl

theorem words_succ (s : SeedStream) (n : Nat) :
    s.words (n + 1) = s.ahead 0 :: (s.skip 1).words n := by
  rw [words, words, List.range_succ_eq_map, List.map_cons, List.map_map]
  congr 1
  refine List.map_congr_left fun i _ => ?_
  rw [ahead_skip, Nat.add_comm 1 i]
  rfl

end SeedStream

end Attest
