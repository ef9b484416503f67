import Attest.Hash.Block

/-!
# ChaCha20

The generator behind every random choice. A key of eight words names an endless sequence of
blocks of sixteen words; `word key n` is the `n`-th word of that sequence, so a reader of the
sequence needs no more state than its position.
-/

namespace Attest

namespace ChaCha20

/-- A key: eight words. -/
abbrev Key := Vector UInt32 8

/-- The sixteen words that the rounds work on. -/
abbrev Grid := Vector UInt32 16

/-- The quarter round on four places of the grid. -/
def quarter (g : Grid) (a b c d : Fin 16) : Grid :=
  let half (g : Grid) (a b d : Fin 16) (n : UInt32) : Grid :=
    let sum := g.get a + g.get b
    let g := g.set a sum
    g.set d (Hash.rotateLeft (g.get d ^^^ sum) n)
  half (half (half (half g a b d 16) c d b 12) a b d 8) c d b 7

/-- A round on the columns and a round on the diagonals. -/
def doubleRound (g : Grid) : Grid :=
  let g := quarter (quarter (quarter (quarter g 0 4 8 12) 1 5 9 13) 2 6 10 14) 3 7 11 15
  quarter (quarter (quarter (quarter g 0 5 10 15) 1 6 11 12) 2 7 8 13) 3 4 9 14

/-- Applies `doubleRound` `n` times. -/
def doubleRounds (g : Grid) : Nat → Grid
  | 0 => g
  | n + 1 => doubleRounds (doubleRound g) n

/-- The grid of a key and a block number: constants, key, the number as two words, two zeros. -/
def start (key : Key) (block : UInt64) : Grid :=
  let constants : Vector UInt32 4 := #v[0x61707865, 0x3320646e, 0x79622d32, 0x6b206574]
  let number : Vector UInt32 4 := #v[block.toUInt32, (block >>> 32).toUInt32, 0, 0]
  constants ++ key ++ number

/-- The sixteen words of one block. -/
def block (key : Key) (number : UInt64) : Grid :=
  let g := start key number
  g.zipWith (· + ·) (doubleRounds g 10)

/-- The word of the key's sequence at a position. -/
def word (key : Key) (position : Nat) : UInt32 :=
  (block key (position / 16).toUInt64).get ⟨position % 16, Nat.mod_lt _ (by decide)⟩

end ChaCha20

end Attest
