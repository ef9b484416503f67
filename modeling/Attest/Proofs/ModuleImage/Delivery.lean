import Attest.ModuleImage.Messages
import Attest.Proofs.Wire.Reading
import Mathlib.Data.List.Forall2

/-!
# What a client reads of the module

The messages about the module tell their own lengths, and the client reads them by these:
`ModuleImage.Use`, `ModuleImage.Cache` and `ModuleImage.Block` are what it finds. The blob comes in
chunks (`Bytes.flatten_chunks`), of which only the last may be shorter than the others
(`Bytes.length_of_mem_dropLast_chunks`). A field for a length tells the largest one it can if a
length does not fit; none of a module comes to that (`Bytes.toNat_count16`, `Bytes.toNat_count32`).
`ModuleImage.messages_deliver_module` says that nothing of a module is lost on the way.
-/

namespace Attest

namespace Bytes

/-! ### Chunks -/

theorem chunks_nil (n : Nat) : chunks n [] = [] := by
  rw [chunks, if_pos (Or.inr rfl)]

/-- The chunks make up the byte string. -/
theorem flatten_chunks {n : Nat} (pos : 0 < n) (b : Bytes) : (chunks n b).flatten = b := by
  fun_induction chunks n b with
  | case1 b stop => simp [stop.resolve_left (by omega)]
  | case2 b _ ih => rw [List.flatten_cons, ih, List.take_append_drop]

theorem length_of_mem_chunks {n : Nat} {b chunk : Bytes} (h : chunk ∈ chunks n b) :
    0 < chunk.length ∧ chunk.length ≤ n := by
  fun_induction chunks n b with
  | case1 => cases h
  | case2 b go ih =>
    rw [not_or] at go
    rcases List.mem_cons.1 h with rfl | h
    · have := List.length_pos_iff.2 go.2
      rw [List.length_take]
      omega
    · exact ih h

/-- All chunks but the last are full. -/
theorem length_of_mem_dropLast_chunks {n : Nat} {b chunk : Bytes}
    (h : chunk ∈ (chunks n b).dropLast) : chunk.length = n := by
  fun_induction chunks n b with
  | case1 => cases h
  | case2 b go ih =>
    cases more : chunks n (b.drop n) with
    | nil =>
      rw [more] at h
      cases h
    | cons next rest =>
      rw [more] at h ih
      rcases List.mem_cons.1 h with rfl | h
      · -- something is left behind this chunk
        have left : 0 < (b.drop n).length := by
          refine List.length_pos_iff.2 fun none => ?_
          rw [none, chunks_nil] at more
          cases more
        rw [List.length_drop] at left
        rw [List.length_take]
        omega
      · exact ih h

end Bytes

namespace Wire

namespace Reader

variable {α : Type} {x : Reader α}

/-! ### Whole messages -/

/-- The value that a read takes from a message, if it leaves nothing behind. -/
def whole? (x : Reader α) (message : Bytes) : Option α :=
  match x (Cursor.start message) with
  | .ok a c => if c.rest = [] then some a else none
  | .error _ _ => none

/-- Repeats a read until nothing is left, and `n` times at most. -/
def untilEnd (x : Reader α) : Nat → Reader (List α)
  | 0 => pure []
  | n + 1 => fun c =>
    if c.rest = [] then .ok [] c
    else (do
      let a ← x
      let more ← untilEnd x n
      return a :: more) c

/-- The values that a read takes from a message one after the other, if it leaves nothing behind. -/
def all? (x : Reader α) (message : Bytes) : Option (List α) :=
  (x.untilEnd message.length).whole? message

theorem over_message (message : Bytes) :
    (Cursor.start message).Over ⟨0 + message.length, []⟩ message :=
  ⟨(List.append_nil message).symm, rfl⟩

theorem whole?_of_ok {message : Bytes} {a : α} {c : Cursor}
    (read : x (Cursor.start message) = .ok a c) (last : c.rest = []) :
    x.whole? message = some a := by
  rw [whole?, read]
  exact if_pos last

theorem Takes.whole {message : Bytes} {a : α} (h : x.Takes message a) :
    x.whole? message = some a :=
  whole?_of_ok (h (over_message message)) rfl

/-- Pieces of a message are read one by one to its end. -/
theorem untilEnd_ok {pieces : List (Bytes × α)} {n : Nat}
    (takes : ∀ p ∈ pieces, x.Takes p.1 p.2 ∧ p.1 ≠ []) (few : pieces.length ≤ n) {c c' : Cursor}
    (moved : c.Over c' (pieces.map Prod.fst).flatten) (last : c'.rest = []) :
    x.untilEnd n c = .ok (pieces.map Prod.snd) c' := by
  induction pieces generalizing n c with
  | nil =>
    obtain rfl := Cursor.over_nil_iff.1 moved
    cases n with
    | zero => rfl
    | succ n => exact if_pos last
  | cons p rest ih =>
    obtain ⟨n, rfl⟩ := Nat.exists_eq_succ_of_ne_zero (by simp at few; omega : n ≠ 0)
    obtain ⟨first, nonempty⟩ := takes p List.mem_cons_self
    obtain ⟨c₁, head, tail⟩ := Cursor.over_append_iff.1 moved
    have more : c.rest ≠ [] := by
      rw [head.rest]
      simp [nonempty]
    have later := ih (fun q hq => takes q (List.mem_cons_of_mem _ hq)) (Nat.le_of_succ_le_succ few)
      tail
    refine (if_neg more).trans ?_
    exact bind_ok_iff.2 ⟨p.2, c₁, first head, bind_ok_iff.2 ⟨_, c', later, rfl⟩⟩

/-- Pieces are no more than their bytes. -/
theorem length_le_flatten {pieces : List Bytes} (nonempty : ∀ p ∈ pieces, p ≠ []) :
    pieces.length ≤ pieces.flatten.length := by
  induction pieces with
  | nil => exact Nat.le_refl 0
  | cons p rest ih =>
    have first := List.length_pos_iff.2 (nonempty p List.mem_cons_self)
    have more := ih fun q hq => nonempty q (List.mem_cons_of_mem _ hq)
    simp only [List.flatten_cons, List.length_append, List.length_cons]
    omega

theorem all?_of_takes {pieces : List (Bytes × α)}
    (takes : ∀ p ∈ pieces, x.Takes p.1 p.2 ∧ p.1 ≠ []) :
    x.all? (pieces.map Prod.fst).flatten = some (pieces.map Prod.snd) := by
  have few : (pieces.map Prod.fst).length ≤ (pieces.map Prod.fst).flatten.length := by
    refine length_le_flatten fun bytes hb => ?_
    obtain ⟨p, hp, rfl⟩ := List.mem_map.1 hb
    exact (takes p hp).2
  rw [List.length_map] at few
  exact whole?_of_ok (untilEnd_ok takes few (over_message _) rfl) rfl

end Reader

end Wire

namespace ModuleImage

open Wire (Field Reader)

/-! ### The client's side -/

/-- Reads what a module is announced by: the opcode of the message, and what it says. -/
def readUse : Reader (UInt8 × Bytes × Bytes × UInt32) := do
  let opcode ← Reader.byte
  let fingerprint ← Reader.raw 16
  let key ← Reader.raw 16
  let size ← Reader.word32
  return (opcode, fingerprint, key, size)

/-- Reads a message that carries a chunk: its opcode, and as many bytes as it tells. -/
def readCache : Reader (UInt8 × UInt16 × Bytes) := do
  let opcode ← Reader.byte
  let length ← Reader.word16
  let chunk ← Reader.raw length.toNat
  return (opcode, length, chunk)

/-- A block that names functions. -/
structure Block where
  opcode : UInt8
  size : UInt16
  checksum : UInt32
  body : Bytes

/-- Reads a block, whose body has as many bytes as it tells. -/
def readBlock : Reader Block := do
  let opcode ← Reader.byte
  let size ← Reader.word16
  let checksum ← Reader.word32
  let body ← Reader.raw size.toNat
  return ⟨opcode, size, checksum, body⟩

/-- Reads `n` addresses. -/
def readAddresses : Nat → Reader (List UInt32)
  | 0 => return []
  | n + 1 => do
    let address ← Reader.word32
    let more ← readAddresses n
    return address :: more

/-- Reads the body of the block for archive files: what it is for, and the addresses. -/
def readFiles : Reader (Bytes × List UInt32) := do
  let purpose ← Reader.raw 4
  let addresses ← readAddresses 4
  return (purpose, addresses)

/-- Reads the body of a block for one function: what it is for, the address, and whether it is to
be used. -/
def readFunction : Reader (Bytes × UInt32 × UInt8) := do
  let purpose ← Reader.raw 3
  let address ← Reader.word32
  let enabled ← Reader.byte
  return (purpose, address, enabled)

/-! ### What it finds -/

theorem takes_use (a : Announcement) :
    readUse.Takes a.message
      (Wire.ServerOpcode.moduleUse.byte, a.fingerprint.toList, a.key.toList, a.size) := by
  refine (Reader.takes_byte _).bind ?_
  refine (Reader.takes_raw (Vector.length_toList ..)).bind ?_
  refine (Reader.takes_raw (Vector.length_toList ..)).bind ?_
  exact (Reader.takes_word32 _).bind (Reader.takes_pure _)

theorem takes_cache {chunk : Bytes} (h : chunk.length < UInt16.size) :
    readCache.Takes (chunkMessage chunk)
      (Wire.ServerOpcode.moduleCache.byte, Bytes.count16 chunk, chunk) := by
  have counted := (Bytes.toNat_count16 h).symm
  refine (Reader.takes_byte _).bind ?_
  refine (Reader.takes_word16 _).bind ?_
  exact (Reader.takes_raw counted).bind (Reader.takes_pure _)

/-- The block with this body. -/
def Block.ofBody (body : Bytes) : Block :=
  ⟨Wire.ServerOpcode.moduleInitialize.byte, Bytes.count16 body, Attest.checksum body, body⟩

theorem takes_block {body : Bytes} (h : body.length < UInt16.size) :
    readBlock.Takes (Field.encodeAll (blockFields body)) (.ofBody body) := by
  have counted := (Bytes.toNat_count16 h).symm
  refine (Reader.takes_byte _).bind ?_
  refine (Reader.takes_word16 _).bind ?_
  refine (Reader.takes_word32 _).bind ?_
  exact (Reader.takes_raw counted).bind (Reader.takes_pure _)

theorem takes_addresses (addresses : List UInt32) :
    (readAddresses addresses.length).Takes (Field.encodeAll (addresses.map .word32)) addresses := by
  induction addresses with
  | nil => exact Reader.takes_pure _
  | cons address rest ih =>
    refine (Reader.takes_word32 address).bind ?_
    exact ih.finish (Reader.takes_pure _)

theorem takes_files (f : Functions) :
    readFiles.Takes f.filesBlock ([1, 0, 1, 0], f.files.toList) := by
  have addresses := takes_addresses f.files.toList
  rw [Vector.length_toList] at addresses
  refine (@Reader.takes_raw 4 [1, 0, 1, 0] rfl).bind ?_
  exact addresses.finish (Reader.takes_pure _)

theorem takes_load (f : Functions) : readFunction.Takes f.loadBlock ([4, 0, 0], f.load, 1) := by
  refine (@Reader.takes_raw 3 [4, 0, 0] rfl).bind ?_
  exact (Reader.takes_word32 _).bind ((Reader.takes_byte 1).bind (Reader.takes_pure _))

theorem takes_tick (f : Functions) : readFunction.Takes f.tickBlock ([1, 1, 0], f.tick, 1) := by
  refine (@Reader.takes_raw 3 [1, 1, 0] rfl).bind ?_
  exact (Reader.takes_word32 _).bind ((Reader.takes_byte 1).bind (Reader.takes_pure _))

/-- A message of blocks is read to its end, block by block. -/
theorem all?_blocks {bodies : List Bytes} (fit : ∀ body ∈ bodies, body.length < UInt16.size) :
    readBlock.all? (Field.encodeAll (bodies.flatMap blockFields)) =
      some (bodies.map .ofBody) := by
  let pieces : List (Bytes × Block) :=
    bodies.map fun body => (Field.encodeAll (blockFields body), .ofBody body)
  have message : Field.encodeAll (bodies.flatMap blockFields) = (pieces.map Prod.fst).flatten := by
    rw [Field.encodeAll, List.flatMap_assoc, List.map_map]
    rfl
  have blocks : bodies.map Block.ofBody = pieces.map Prod.snd := by
    rw [List.map_map]
    rfl
  rw [message, blocks]
  refine Reader.all?_of_takes fun p hp => ?_
  obtain ⟨body, mem, rfl⟩ := List.mem_map.1 hp
  exact ⟨takes_block (fit body mem), List.cons_ne_nil _ _⟩

theorem length_words (words : List UInt32) :
    (Field.encodeAll (words.map .word32)).length = 4 * words.length := by
  induction words with
  | nil => rfl
  | cons w rest ih =>
    rw [List.map_cons, Field.encodeAll_cons, Field.encode, List.length_append, Bytes.length_le32,
      ih, List.length_cons]
    omega

theorem length_filesBlock (f : Functions) : f.filesBlock.length = 20 := by
  rw [Functions.filesBlock, Field.encodeAll_append, List.length_append, length_words,
    Vector.length_toList]
  rfl

/-- The bodies of the blocks that name functions. -/
def Functions.bodies (f : Functions) : List Bytes :=
  [f.filesBlock, f.loadBlock, f.tickBlock]

theorem length_of_mem_bodies {f : Functions} {body : Bytes} (h : body ∈ f.bodies) :
    body.length < UInt16.size := by
  simp only [Functions.bodies, List.mem_cons, List.not_mem_nil, or_false] at h
  rcases h with rfl | rfl | rfl
  · rw [length_filesBlock]
    decide
  · exact (by decide : 8 < UInt16.size)
  · exact (by decide : 8 < UInt16.size)

/-! ### Every module -/

/-- What of a module reaches a client that reads the messages. -/
structure Delivered (image : ModuleImage) : Prop where
  /-- The announcement tells the size of the blob, its digest and its key. -/
  announced : ∃ size : UInt32, readUse.whole? image.announcement.message =
    some (0, (Md5.digest image.blob).toList, image.key.toList, size) ∧
    size.toNat = image.blob.length
  /-- The messages behind it carry the chunks of the blob, each behind its length. -/
  carried : ∃ chunks : List Bytes,
    List.Forall₂ (fun message chunk => ∃ length : UInt16, readCache.whole? message =
      some (1, length, chunk) ∧ length.toNat = chunk.length)
      (chunkMessages image.blob) chunks ∧
    chunks.flatten = image.blob ∧ (∀ chunk ∈ chunks, 1 ≤ chunk.length ∧ chunk.length ≤ 500) ∧
    ∀ chunk ∈ chunks.dropLast, chunk.length = 500
  /-- Three blocks name the functions, each behind its length and the checksum of its body. -/
  named : ∃ files load tick : Block,
    readBlock.all? image.functions.message = some [files, load, tick] ∧
    (∀ b ∈ [files, load, tick], b.opcode = 3 ∧
      b.size.toNat = b.body.length ∧ b.checksum = Attest.checksum b.body) ∧
    readFiles.whole? files.body = some ([1, 0, 1, 0], image.functions.files.toList) ∧
    readFunction.whole? load.body = some ([4, 0, 0], image.functions.load, 1) ∧
    readFunction.whole? tick.body = some ([1, 1, 0], image.functions.tick, 1)

theorem announced (image : ModuleImage) : ∃ size : UInt32,
    readUse.whole? image.announcement.message =
      some (0, (Md5.digest image.blob).toList, image.key.toList, size) ∧
    size.toNat = image.blob.length :=
  ⟨_, (takes_use image.announcement).whole, Bytes.toNat_count32 image.length_lt⟩

/-- The digest of a blob of the bytes of `module`. -/
example : Md5.digest (Bytes.ofString "module") =
    #v[0x22, 0x88, 0x4D, 0xB1, 0x48, 0xF0, 0xFF, 0xB0, 0xD8, 0x30, 0xBA, 0x43, 0x11, 0x02, 0xB0,
      0xB5] := by
  decide +kernel

theorem carried_chunks (chunks : List Bytes) (fit : ∀ chunk ∈ chunks, chunk.length < UInt16.size) :
    List.Forall₂ (fun message chunk => ∃ length : UInt16, readCache.whole? message =
      some (1, length, chunk) ∧ length.toNat = chunk.length)
      (chunks.map chunkMessage) chunks := by
  refine List.forall₂_map_left_iff.2 (List.forall₂_same.2 fun chunk hc => ?_)
  exact ⟨_, (takes_cache (fit chunk hc)).whole, Bytes.toNat_count16 (fit chunk hc)⟩

theorem delivered (image : ModuleImage) : image.Delivered where
  announced := image.announced
  carried := by
    have full : ∀ chunk ∈ Bytes.chunks Wire.chunkSize image.blob,
        1 ≤ chunk.length ∧ chunk.length ≤ 500 := fun chunk hc => Bytes.length_of_mem_chunks hc
    refine ⟨Bytes.chunks Wire.chunkSize image.blob, ?_, Bytes.flatten_chunks (by decide) _, full,
      fun chunk hc => Bytes.length_of_mem_dropLast_chunks hc⟩
    refine carried_chunks _ fun chunk hc => ?_
    exact Nat.lt_of_le_of_lt (full chunk hc).2 (by decide)
  named := by
    refine ⟨_, _, _, all?_blocks fun _ => length_of_mem_bodies, fun b hb => ?_,
      (takes_files _).whole, (takes_load _).whole, (takes_tick _).whole⟩
    have listed : b ∈ image.functions.bodies.map Block.ofBody := hb
    obtain ⟨body, mem, rfl⟩ := List.mem_map.1 listed
    exact ⟨rfl, Bytes.toNat_count16 (length_of_mem_bodies mem), rfl⟩

/-- **The messages deliver a module as it is.** A blob makes a module just if it is not empty and
its size fits a word. A client that reads the messages about the module by the lengths that they
tell finds the blob, of the size and the digest that were announced, and the addresses of the
functions, and nothing else; no length is too large for its field. -/
theorem messages_deliver_module (blob : Bytes) (key : Key) (secrets : Secrets)
    (functions : Functions) :
    ((∃ image, ofBlob blob key secrets functions = .ok image) ↔
      blob ≠ [] ∧ blob.length < UInt32.size) ∧
    ∀ image, ofBlob blob key secrets functions = .ok image →
      image.blob = blob ∧ image.key = key ∧ image.functions = functions ∧ image.Delivered := by
  unfold ofBlob
  split
  case isTrue empty => exact ⟨⟨nofun, fun h => absurd empty h.1⟩, nofun⟩
  case isFalse nonempty =>
    split
    case isTrue bounded =>
      refine ⟨⟨fun _ => ⟨nonempty, bounded⟩, fun _ => ⟨_, rfl⟩⟩, ?_⟩
      intro image made
      cases made
      exact ⟨rfl, rfl, rfl, delivered _⟩
    case isFalse oversized => exact ⟨⟨nofun, fun h => absurd h.2 oversized⟩, nofun⟩

/-- A blob of two full chunks and a rest. -/
theorem sample_delivery :
    ∃ image, ofBlob (List.replicate 1200 0xAB) (Vector.replicate 16 1)
        ⟨Vector.replicate 16 2, Vector.replicate 16 3, Vector.replicate 16 4,
          Vector.replicate 20 5⟩ {} = .ok image ∧
      image.blob = List.replicate 1200 0xAB ∧ image.Delivered := by
  obtain ⟨accepted, delivers⟩ := messages_deliver_module (List.replicate 1200 0xAB)
    (Vector.replicate 16 1) ⟨Vector.replicate 16 2, Vector.replicate 16 3, Vector.replicate 16 4,
      Vector.replicate 20 5⟩ {}
  have size : (List.replicate 1200 (0xAB : UInt8)).length = 1200 := List.length_replicate
  have nonempty := List.length_pos_iff.1 (size.symm ▸ (by decide : 0 < 1200))
  obtain ⟨image, made⟩ := accepted.2 ⟨nonempty, size.symm ▸ (by decide : 1200 < UInt32.size)⟩
  obtain ⟨blob, -, -, delivered⟩ := delivers image made
  exact ⟨image, made, blob, delivered⟩

end ModuleImage

end Attest
