import Attest.Bytes

/-!
# RC4

The cipher is a generator of bytes: a permutation of the 256 byte values and two indices into it.
Each step swaps two places and yields one byte. `keystream n` lists the next `n` bytes and
`advance n` is the state after them, so what a cipher does to a message is told by the number of
bytes that went through it before: the message is combined with the next bytes by exclusive or.
-/

namespace Attest

/-- The state of the generator. -/
structure Rc4 where
  /-- The permutation of the byte values. -/
  perm : Vector UInt8 256
  /-- The index that moves by one place each step. -/
  i : UInt8
  /-- The index that jumps. -/
  j : UInt8
  deriving DecidableEq

namespace Rc4

/-- The entry at a place. -/
def entry (perm : Vector UInt8 256) (k : UInt8) : UInt8 :=
  perm.get k.toFin

/-- The permutation with two places exchanged. -/
def swap (perm : Vector UInt8 256) (i j : UInt8) : Vector UInt8 256 :=
  perm.swap i.toNat j.toNat (UInt8.toNat_lt i) (UInt8.toNat_lt j)

/-- Mixes a key byte into the place `i`. -/
def mixKey (s : Rc4) (keyByte : UInt8) : Rc4 :=
  let j := s.j + entry s.perm s.i + keyByte
  ⟨swap s.perm s.i j, s.i + 1, j⟩

/-- The generator for a key. The key is repeated to 256 bytes and mixed in place by place. -/
def ofKey (key : Bytes) : Rc4 :=
  let start : Rc4 := ⟨Vector.ofFn fun k => UInt8.ofNat k.val, 0, 0⟩
  let mixed := (List.range 256).foldl (fun s n => mixKey s (key.getD (n % key.length) 0)) start
  ⟨mixed.perm, 0, 0⟩

/-- The state after one step. -/
def step (s : Rc4) : Rc4 :=
  let i := s.i + 1
  let j := s.j + entry s.perm i
  ⟨swap s.perm i j, i, j⟩

/-- The byte that the last step yields. -/
def output (s : Rc4) : UInt8 :=
  entry s.perm (entry s.perm s.i + entry s.perm s.j)

/-- The state after `n` steps. -/
def advance (s : Rc4) : Nat → Rc4
  | 0 => s
  | n + 1 => s.step.advance n

/-- The bytes that the next `n` steps yield. -/
def keystream (s : Rc4) : Nat → Bytes
  | 0 => []
  | n + 1 => s.step.output :: s.step.keystream n

/-- Combines a message with the next bytes; `done` holds the part that is finished. -/
def applyOnto (s : Rc4) (done : Array UInt8) : Bytes → Bytes × Rc4
  | [] => (done.toList, s)
  | b :: rest =>
    let next := s.step
    let byte := b ^^^ next.output
    next.applyOnto (done.push byte) rest

/-- A message combined with the next bytes, and the state after them. -/
def apply (s : Rc4) (message : Bytes) : Bytes × Rc4 :=
  s.applyOnto #[] message

@[simp] theorem length_keystream (s : Rc4) (n : Nat) : (s.keystream n).length = n := by
  induction n generalizing s with
  | zero => rfl
  | succ n ih => simp [keystream, ih]

theorem applyOnto_eq (s : Rc4) (done : Array UInt8) (message : Bytes) :
    s.applyOnto done message =
      (done.toList ++ Bytes.xor message (s.keystream message.length),
        s.advance message.length) := by
  induction message generalizing s done with
  | nil => simp [applyOnto, keystream, advance, Bytes.xor]
  | cons b rest ih => simp [applyOnto, ih, keystream, advance, Bytes.xor]

/-- Applying the cipher is combining with the keystream and moving on by the message's length. -/
theorem apply_eq (s : Rc4) (message : Bytes) :
    s.apply message =
      (Bytes.xor message (s.keystream message.length), s.advance message.length) := by
  simp [apply, applyOnto_eq]

end Rc4

end Attest
