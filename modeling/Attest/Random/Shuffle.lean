import Attest.Random.Seeds

/-!
# Shuffling

The items are exchanged from the last to the second, each with one at a random place not behind
it. A random place below `range` is the high half of a word times `range`, where a word whose
product falls into the uneven rest of the word range is drawn again.
-/

namespace Attest

namespace SeedStream

variable {α : Type}

/-- The largest low half of the product for which a place below `range` is accepted. -/
def acceptedRest (range : UInt32) : UInt32 :=
  (range <<< (31 - range.log2)) - 1

/-- Whether a word is accepted for a place below `range`. -/
def accepts (range word : UInt32) : Bool :=
  word.toNat * range.toNat % UInt32.size ≤ (acceptedRest range).toNat

/-- The place below `range` that a word stands for. -/
def placeOf (range word : UInt32) : Nat :=
  word.toNat * range.toNat / UInt32.size

/-- Draws a place below `range`: refused words are passed over, but not more than `tries` of them;
the next word is taken as it is. -/
def nextBelowWithin (range : UInt32) (s : SeedStream) : Nat → Nat × SeedStream
  | 0 => (placeOf range (s.ahead 0), s.skip 1)
  | tries + 1 =>
    if accepts range (s.ahead 0) then (placeOf range (s.ahead 0), s.skip 1)
    else nextBelowWithin range (s.skip 1) tries

/-- The bound makes no difference once a word is accepted: with more tries the same is drawn. -/
theorem nextBelowWithin_add {range : UInt32} {s : SeedStream} {n tries : Nat} (few : n < tries)
    (accepted : accepts range (s.ahead n) = true) (more : Nat) :
    nextBelowWithin range s (tries + more) = nextBelowWithin range s tries := by
  induction tries generalizing s n with
  | zero => exact absurd few (Nat.not_lt_zero n)
  | succ tries ih =>
    rw [Nat.succ_add, nextBelowWithin, nextBelowWithin]
    split
    case isTrue => rfl
    case isFalse refused =>
      cases n with
      | zero => exact absurd accepted refused
      | succ n =>
        refine ih (Nat.lt_of_succ_lt_succ few) ?_
        rwa [ahead_skip, Nat.add_comm]

/-- Draws a place below `range`, for `range` below the size of a word. The drawing has no bound of
its own; the function has one to end for every stream. By `nextBelowWithin_add` the two agree if one
of the next 1024 words is accepted. Each is refused with a chance below one half, so 1024 refusals
in a row do not come up. -/
def nextBelow (range : Nat) (s : SeedStream) : Nat × SeedStream :=
  nextBelowWithin range.toUInt32 s 1024

/-- Exchanges the items at the places `i`, `i - 1`, … `1`, each with one not behind it. -/
def shuffleFrom (items : Array α) (s : SeedStream) : Nat → Array α × SeedStream
  | 0 => (items, s)
  | i + 1 =>
    let (j, s) := s.nextBelow (i + 2)
    shuffleFrom (items.swapIfInBounds (i + 1) j) s i

/-- The items in a random order. -/
def shuffle (items : List α) (s : SeedStream) : List α × SeedStream :=
  let (items, s) := shuffleFrom items.toArray s (items.length - 1)
  (items.toList, s)

end SeedStream

end Attest
