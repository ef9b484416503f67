import Attest.Cipher.Pair

/-!
# Ciphers in step

What a cipher does to a message is told by the number of bytes that went through it before
(`Rc4.apply_eq`). Two consequences are used wherever messages are exchanged:

* `CipherPair.sealedAll_eq_advance` : sealing a row of messages moves the sending cipher on by the
  number of bytes of the row and leaves the receiving one where it was;
* `CipherPair.openedAll_sealedAll` : a pair that receives in step with the sending of another one
  opens what the other one sealed, and is in step afterwards (`CipherPair.send_sealedAll`).

`CipherPair.Mirrors` puts both directions together.
-/

namespace Attest

namespace Bytes

theorem xor_xor {message key : Bytes} (h : message.length = key.length) :
    xor (xor message key) key = message := by
  induction message generalizing key with
  | nil => rfl
  | cons b rest ih =>
    cases key with
    | nil => simp at h
    | cons k key =>
      have hrest : xor (xor rest key) key = rest := ih (by simpa using h)
      simp only [xor, List.zipWith_cons_cons, List.cons.injEq] at hrest ⊢
      refine ⟨?_, hrest⟩
      rw [UInt8.xor_assoc, UInt8.xor_self, UInt8.xor_zero]

theorem xor_append {message key : Bytes} (h : message.length = key.length) (more moreKey : Bytes) :
    xor (message ++ more) (key ++ moreKey) = xor message key ++ xor more moreKey :=
  List.zipWith_append h

@[simp] theorem length_xor_keystream (message : Bytes) (s : Rc4) :
    (xor message (s.keystream message.length)).length = message.length := by
  simp [xor]

end Bytes

namespace Rc4

@[simp] theorem advance_zero (s : Rc4) : s.advance 0 = s := rfl

theorem advance_add (s : Rc4) (m n : Nat) : s.advance (m + n) = (s.advance m).advance n := by
  induction m generalizing s with
  | zero => simp
  | succ m ih => rw [Nat.succ_add, advance, ih, advance]

theorem keystream_eq_map (s : Rc4) (n : Nat) :
    s.keystream n = (List.range n).map fun i => (s.advance i).step.output := by
  induction n generalizing s with
  | zero => rfl
  | succ n ih =>
    rw [keystream, ih, List.range_succ_eq_map, List.map_cons, List.map_map]
    rfl

@[simp] theorem length_apply (s : Rc4) (message : Bytes) :
    (s.apply message).1.length = message.length := by
  simp [apply_eq]

@[simp] theorem apply_snd (s : Rc4) (message : Bytes) :
    (s.apply message).2 = s.advance message.length := by
  simp [apply_eq]

/-- Applying a cipher twice from the same state gives the message back. -/
@[simp] theorem apply_apply (s : Rc4) (message : Bytes) :
    s.apply (s.apply message).1 = (message, s.advance message.length) := by
  rw [apply_eq s (s.apply message).1, length_apply, apply_eq,
    Bytes.xor_xor (by simp)]

end Rc4

namespace CipherPair

@[simp] theorem sealed_snd (pair : CipherPair) (message : Bytes) :
    (pair.sealed message).2 = { pair with send := pair.send.advance message.length } := by
  simp [sealed]

@[simp] theorem opened_snd (pair : CipherPair) (wire : Bytes) :
    (pair.opened wire).2 = { pair with receive := pair.receive.advance wire.length } := by
  simp [opened]

@[simp] theorem length_sealed (pair : CipherPair) (message : Bytes) :
    (pair.sealed message).1.length = message.length := by
  simp [sealed]

/-- Seals messages, in order. -/
def sealedAll (pair : CipherPair) : List Bytes → List Bytes × CipherPair
  | [] => ([], pair)
  | message :: rest =>
    let (wire, pair) := pair.sealed message
    let (wires, pair) := pair.sealedAll rest
    (wire :: wires, pair)

/-- Opens messages, in order. -/
def openedAll (pair : CipherPair) : List Bytes → List Bytes × CipherPair
  | [] => ([], pair)
  | wire :: rest =>
    let (message, pair) := pair.opened wire
    let (messages, pair) := pair.openedAll rest
    (message :: messages, pair)

@[simp] theorem sealedAll_nil (pair : CipherPair) : pair.sealedAll [] = ([], pair) := rfl

@[simp] theorem openedAll_nil (pair : CipherPair) : pair.openedAll [] = ([], pair) := rfl

@[simp] theorem sealedAll_singleton (pair : CipherPair) (message : Bytes) :
    pair.sealedAll [message] = ([(pair.sealed message).1], (pair.sealed message).2) := rfl

theorem length_flatten_sealedAll (pair : CipherPair) (messages : List Bytes) :
    (pair.sealedAll messages).1.flatten.length = messages.flatten.length := by
  induction messages generalizing pair with
  | nil => rfl
  | cons message rest ih => simp [sealedAll, ih]

theorem sealedAll_eq_advance (pair : CipherPair) (messages : List Bytes) :
    (pair.sealedAll messages).2 =
      { pair with send := pair.send.advance messages.flatten.length } := by
  induction messages generalizing pair with
  | nil => simp
  | cons message rest ih =>
    rw [sealedAll]
    simp only [ih, sealed_snd, List.flatten_cons, List.length_append, Rc4.advance_add]

theorem openedAll_eq_advance (pair : CipherPair) (wires : List Bytes) :
    (pair.openedAll wires).2 =
      { pair with receive := pair.receive.advance wires.flatten.length } := by
  induction wires generalizing pair with
  | nil => simp
  | cons wire rest ih =>
    rw [openedAll]
    simp only [ih, opened_snd, List.flatten_cons, List.length_append, Rc4.advance_add]

theorem opened_sealed {a b : CipherPair} (h : a.send = b.receive) (message : Bytes) :
    (b.opened (a.sealed message).1).1 = message := by
  simp [opened, sealed, h]

theorem openedAll_sealedAll {a b : CipherPair} (h : a.send = b.receive) (messages : List Bytes) :
    (b.openedAll (a.sealedAll messages).1).1 = messages := by
  induction messages generalizing a b with
  | nil => rfl
  | cons message rest ih =>
    have hrest : (a.sealed message).2.send = (b.opened (a.sealed message).1).2.receive := by
      simp [h]
    simp only [sealedAll, openedAll, opened_sealed h, ih hrest]

theorem send_sealedAll {a b : CipherPair} (h : a.send = b.receive) (messages : List Bytes) :
    (a.sealedAll messages).2.send = (b.openedAll (a.sealedAll messages).1).2.receive := by
  rw [sealedAll_eq_advance, openedAll_eq_advance, length_flatten_sealedAll, h]

/-! ### Both directions -/

/-- Whether each of two pairs receives in step with the sending of the other one. -/
structure Mirrors (a b : CipherPair) : Prop where
  there : a.send = b.receive
  back : b.send = a.receive

theorem mirrors_keys (keys : Keys) : Mirrors (server keys) (client keys) :=
  ⟨rfl, rfl⟩

/-- Pairs stay in step when the second one speaks. -/
theorem Mirrors.spoken {a b : CipherPair} (h : Mirrors a b) (message : Bytes) :
    Mirrors (a.opened (b.sealed message).1).2 (b.sealed message).2 := by
  constructor
  · rw [opened_snd, sealed_snd]
    exact h.there
  · rw [opened_snd, sealed_snd, length_sealed, h.back]

/-- Pairs stay in step when the first one speaks. -/
theorem Mirrors.heard {a b : CipherPair} (h : Mirrors a b) (messages : List Bytes) :
    Mirrors (a.sealedAll messages).2 (b.openedAll (a.sealedAll messages).1).2 := by
  constructor
  · exact send_sealedAll h.there messages
  · rw [sealedAll_eq_advance, openedAll_eq_advance]
    exact h.back

end CipherPair

end Attest
