import Attest.Keys
import Mathlib.Algebra.Order.Ring.Nat
import Mathlib.Data.List.Infix

/-!
# The key bytes of a secret

The blocks of a secret follow each other without an end (`KeySchedule.blockAt`), and the key bytes
are drawn from them in pieces of any length (`KeySchedule.Draw`). `KeySchedule.Behind` is what every
byte preserves: what was drawn so far is a row of whole blocks and the beginning of the current one.

* `KeySchedule.take_drawAll` : how the bytes are cut into pieces makes no difference, neither to the
  bytes nor to the place that is reached.
* `KeySchedule.pieces_in_one_row` : **the pieces that are drawn are the beginning of the row of
  blocks**, and the keys of a session are its first 32 bytes.
-/

namespace Attest

namespace KeySchedule

/-! ### Blocks -/

/-- Block `k` of a secret. Key bytes are drawn from block 1 on. -/
def blockAt (secret : Bytes) : Nat → Vector UInt8 20
  | 0 => Vector.replicate 20 0
  | k + 1 =>
    let half := secret.length / 2
    Sha1.digest ((Sha1.digest (secret.take half)).toList ++ (blockAt secret k).toList ++
      (Sha1.digest (secret.drop half)).toList)

/-- The blocks from block 1 to block `n`, one after the other. -/
def blocks (secret : Bytes) (n : Nat) : Bytes :=
  (List.range n).flatMap fun k => (blockAt secret (k + 1)).toList

variable {secret : Bytes} {m n : Nat}

theorem blocks_succ :
    blocks secret (n + 1) = blocks secret n ++ (blockAt secret (n + 1)).toList := by
  simp [blocks, List.range_succ]

theorem length_blocks : (blocks secret n).length = 20 * n := by
  induction n with
  | zero => rfl
  | succ n ih =>
    rw [blocks_succ, List.length_append, ih, Vector.length_toList, Nat.mul_succ]

theorem blocks_mono (h : m ≤ n) : blocks secret m <+: blocks secret n := by
  induction h with
  | refl => exact List.prefix_refl _
  | step _ ih =>
    rw [blocks_succ]
    exact ih.trans (List.prefix_append _ _)

/-! ### Draws -/

/-- A piece of the key bytes. -/
inductive Draw where
  /-- So many bytes. -/
  | bytes (count : Nat)
  /-- The bytes of a key. -/
  | key
  deriving DecidableEq, Repr

/-- How many bytes a piece has. -/
def Draw.length : Draw → Nat
  | bytes count => count
  | key => 16

/-- Draws a piece. -/
def draw (s : KeySchedule) : Draw → Bytes × KeySchedule
  | .bytes count => s.take count
  | .key => (s.nextKey.1.toList, s.nextKey.2)

/-- Draws pieces one after the other. -/
def drawAll (s : KeySchedule) : List Draw → List Bytes × KeySchedule
  | [] => ([], s)
  | d :: rest =>
    let (piece, s) := s.draw d
    let (pieces, s) := s.drawAll rest
    (piece :: pieces, s)

theorem draw_eq_take (s : KeySchedule) (d : Draw) : s.draw d = s.take d.length := by
  cases d <;> rfl

theorem take_add (s : KeySchedule) (m n : Nat) :
    s.take (m + n) = ((s.take m).1 ++ ((s.take m).2.take n).1, ((s.take m).2.take n).2) := by
  induction m generalizing s with
  | zero => simp [take]
  | succ m ih => simp [Nat.succ_add, take, ih]

/-- Pieces one after the other are one piece of the same length. -/
theorem take_drawAll (s : KeySchedule) (draws : List Draw) :
    s.take (draws.map Draw.length).sum = ((s.drawAll draws).1.flatten, (s.drawAll draws).2) := by
  induction draws generalizing s with
  | nil => rfl
  | cons d rest ih =>
    rw [List.map_cons, List.sum_cons, take_add, ih, ← draw_eq_take]
    rfl

theorem lengths_drawAll (s : KeySchedule) (draws : List Draw) :
    (s.drawAll draws).1.map List.length = draws.map Draw.length := by
  induction draws generalizing s with
  | nil => rfl
  | cons d rest ih =>
    have first : (s.draw d).1.length = d.length := by rw [draw_eq_take, length_take]
    change (s.draw d).1.length :: ((s.draw d).2.drawAll rest).1.map List.length = _
    rw [first, ih, List.map_cons]

/-! ### Places in the row of blocks -/

/-- Whether a schedule of a secret is at the place behind these bytes. -/
structure Behind (secret drawn : Bytes) (s : KeySchedule) : Prop where
  left : s.left = Sha1.digest (secret.take (secret.length / 2))
  right : s.right = Sha1.digest (secret.drop (secret.length / 2))
  taken_le : s.taken ≤ 20
  /-- The bytes are whole blocks and the used part of the current one. -/
  drawn : ∃ k, s.block = blockAt secret (k + 1) ∧
    drawn = blocks secret k ++ s.block.toList.take s.taken

namespace Behind

variable {drawn : Bytes} {s : KeySchedule}

theorem start (secret : Bytes) : Behind secret [] (ofSecret secret) :=
  ⟨rfl, rfl, Nat.zero_le 20, 0, rfl, rfl⟩

theorem take_succ_eq {block : Vector UInt8 20} {i : Nat} (h : i < 20) :
    block.toList.take (i + 1) = block.toList.take i ++ [block.toList.getD i 0] := by
  have inside : i < block.toList.length := by rwa [Vector.length_toList]
  rw [List.take_add_one, List.getD_eq_getElem?_getD, List.getElem?_eq_getElem inside]
  rfl

theorem next (h : Behind secret drawn s) : Behind secret (drawn ++ [s.next.1]) s.next.2 := by
  obtain ⟨k, block, bytes⟩ := h.drawn
  by_cases full : s.taken = 20
  · -- the current block joins the whole ones, and the byte is the first of the block that follows
    have following : nextBlock s.left s.right s.block = blockAt secret (k + 2) := by
      rw [h.left, h.right, block]
      rfl
    have whole : drawn = blocks secret (k + 1) := by
      rw [bytes, full, blocks_succ, ← block, List.take_of_length_le (by simp)]
    simp only [KeySchedule.next, if_pos full, following]
    refine ⟨h.left, h.right, Nat.le_add_left 1 19, k + 1, rfl, ?_⟩
    rw [whole, take_succ_eq (by decide)]
    rfl
  · have inside : s.taken < 20 := Nat.lt_of_le_of_ne h.taken_le full
    simp only [KeySchedule.next, if_neg full]
    refine ⟨h.left, h.right, inside, k, block, ?_⟩
    rw [bytes, take_succ_eq inside, List.append_assoc]

theorem take (h : Behind secret drawn s) (n : Nat) :
    Behind secret (drawn ++ (s.take n).1) (s.take n).2 := by
  induction n generalizing s drawn with
  | zero => simpa [KeySchedule.take] using h
  | succ n ih =>
    have later := ih h.next
    rw [List.append_assoc] at later
    exact later

theorem drawAll (secret : Bytes) (draws : List Draw) :
    Behind secret ((ofSecret secret).drawAll draws).1.flatten
      ((ofSecret secret).drawAll draws).2 := by
  have reached := (start secret).take (draws.map Draw.length).sum
  rwa [take_drawAll, List.nil_append] at reached

/-- What was drawn is the beginning of any row of blocks that is long enough. -/
theorem prefix_blocks (h : Behind secret drawn s) (few : drawn.length ≤ 20 * n) :
    drawn <+: blocks secret n := by
  obtain ⟨k, block, bytes⟩ := h.drawn
  have here : drawn <+: blocks secret (k + 1) := by
    rw [bytes, blocks_succ, block]
    exact (List.prefix_append_right_inj _).2 (List.take_prefix _ _)
  refine List.prefix_of_prefix_length_le (here.trans (blocks_mono (Nat.le_max_left _ n)))
    (blocks_mono (Nat.le_max_right _ n)) ?_
  rwa [length_blocks]

end Behind

/-! ### Keys -/

theorem exists_derive? (nonempty : secret ≠ []) (seed : Key) :
    ∃ keys, Keys.derive? secret seed = some keys ∧ keys.seed = seed ∧
      ((ofSecret secret).drawAll [.key, .key]).1 = [keys.inbound.toList, keys.outbound.toList] := by
  refine ⟨⟨(ofSecret secret).nextKey.1, (ofSecret secret).nextKey.2.nextKey.1, seed⟩, ?_, rfl, rfl⟩
  rw [Keys.derive?, if_neg nonempty]

/-- The second sixteen bytes begin in block 1 and end in block 2. -/
theorem take_drop_blocks : ((blocks secret 2).drop 16).take 16 =
    (blockAt secret 1).toList.drop 16 ++ (blockAt secret 2).toList.take 12 := by
  have split : blocks secret 2 = (blockAt secret 1).toList ++ (blockAt secret 2).toList := by
    simp [blocks, List.range_succ]
  have four : ((blockAt secret 1).toList.drop 16).length = 4 := by
    rw [List.length_drop, Vector.length_toList]
  rw [split, List.drop_append_of_le_length (by simp), List.take_append, four,
    List.take_of_length_le (by omega)]

/-- **The pieces that are drawn are the beginning of the row of blocks**, however they are cut; the
place in the current block stays within it; and the keys of a session are the first two pieces of
sixteen bytes. -/
theorem pieces_in_one_row {secret : Bytes} (nonempty : secret ≠ []) (draws : List Draw) :
    ((ofSecret secret).drawAll draws).1.map List.length = draws.map Draw.length ∧
      (∀ n, ((ofSecret secret).drawAll draws).1.flatten.length ≤ 20 * n →
        ((ofSecret secret).drawAll draws).1.flatten <+: blocks secret n) ∧
      ((ofSecret secret).drawAll draws).2.taken ≤ 20 ∧
      ∀ seed, ∃ keys, Keys.derive? secret seed = some keys ∧ keys.seed = seed ∧
        keys.inbound.toList = (blocks secret 2).take 16 ∧
        keys.outbound.toList = ((blocks secret 2).drop 16).take 16 ∧
        keys.outbound.toList =
          (blockAt secret 1).toList.drop 16 ++ (blockAt secret 2).toList.take 12 := by
  have reached := Behind.drawAll secret draws
  refine ⟨lengths_drawAll _ draws, fun n => reached.prefix_blocks, reached.taken_le, fun seed => ?_⟩
  obtain ⟨keys, derived, same, pieces⟩ := exists_derive? nonempty seed
  -- the keys are two pieces like any others, and two blocks are enough for them
  have both := Behind.drawAll secret [.key, .key]
  rw [pieces] at both
  obtain ⟨rest, row⟩ := both.prefix_blocks (n := 2) (by simp)
  have inbound : keys.inbound.toList = (blocks secret 2).take 16 := by
    rw [← row]
    simp
  have outbound : keys.outbound.toList = ((blocks secret 2).drop 16).take 16 := by
    rw [← row]
    simp
  exact ⟨keys, derived, same, inbound, outbound, outbound.trans take_drop_blocks⟩

/-- A secret of one byte, whose first half is empty. The pieces come to three blocks, and no piece
but the last ends with one. -/
theorem sample_pieces :
    [0x42] ≠ ([] : Bytes) ∧
      ((ofSecret [0x42]).drawAll [.bytes 0, .bytes 19, .key, .bytes 1, .bytes 24]).1.flatten =
        blocks [0x42] 3 ∧
      ((ofSecret [0x42]).drawAll [.bytes 0, .bytes 19, .key, .bytes 1, .bytes 24]).2.taken ≤ 20 ∧
      ∃ keys, Keys.derive? [0x42] (Vector.replicate 16 0) = some keys ∧
        keys.outbound.toList =
          (blockAt [0x42] 1).toList.drop 16 ++ (blockAt [0x42] 2).toList.take 12 := by
  have nonempty : [0x42] ≠ ([] : Bytes) := by decide
  obtain ⟨lengths, row, within, derived⟩ :=
    pieces_in_one_row nonempty [.bytes 0, .bytes 19, .key, .bytes 1, .bytes 24]
  have total : ((ofSecret [0x42]).drawAll
      [.bytes 0, .bytes 19, .key, .bytes 1, .bytes 24]).1.flatten.length = 60 := by
    rw [List.length_flatten, lengths]
    rfl
  obtain ⟨keys, derived, -, -, -, straddling⟩ := derived (Vector.replicate 16 0)
  refine ⟨nonempty, (row 3 (by rw [total])).eq_of_length ?_, within, keys, derived, straddling⟩
  rw [total, length_blocks]

end KeySchedule

end Attest
