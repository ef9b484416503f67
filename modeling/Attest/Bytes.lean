/-!
# Byte strings

A payload is a list of bytes. Its words are in little-endian order: `le16` and `le32` write a
word, `word16` and `word32` put one together again. `be32` writes the other order, for digests.
-/

namespace Attest

/-- A byte string. -/
abbrev Bytes := List UInt8

namespace Bytes

/-- The two bytes of a word, the low one first. -/
def le16 (w : UInt16) : Bytes :=
  [w.toUInt8, (w >>> 8).toUInt8]

/-- The four bytes of a word, the low one first. -/
def le32 (w : UInt32) : Bytes :=
  [w.toUInt8, (w >>> 8).toUInt8, (w >>> 16).toUInt8, (w >>> 24).toUInt8]

/-- The four bytes of a word, the high one first. -/
def be32 (w : UInt32) : Bytes :=
  [(w >>> 24).toUInt8, (w >>> 16).toUInt8, (w >>> 8).toUInt8, w.toUInt8]

/-- The word with these two bytes, the low one first. -/
def word16 (b₀ b₁ : UInt8) : UInt16 :=
  b₀.toUInt16 ||| (b₁.toUInt16 <<< 8)

/-- The word with these four bytes, the low one first. -/
def word32 (b₀ b₁ b₂ b₃ : UInt8) : UInt32 :=
  b₀.toUInt32 ||| (b₁.toUInt32 <<< 8) ||| (b₂.toUInt32 <<< 16) ||| (b₃.toUInt32 <<< 24)

@[simp] theorem length_le16 (w : UInt16) : (le16 w).length = 2 := rfl

@[simp] theorem length_le32 (w : UInt32) : (le32 w).length = 4 := rfl

@[simp] theorem length_be32 (w : UInt32) : (be32 w).length = 4 := rfl

/-- The little-endian words of a byte string; a last piece shorter than a word is left out. -/
def words32 : Bytes → List UInt32
  | b₀ :: b₁ :: b₂ :: b₃ :: rest => word32 b₀ b₁ b₂ b₃ :: words32 rest
  | _ => []

/-- The number of bytes as a word of two bytes, at most the largest one. -/
def count16 (b : Bytes) : UInt16 :=
  UInt16.ofNat (min b.length (UInt16.size - 1))

/-- The number of bytes as a word of four bytes, at most the largest one. -/
def count32 (b : Bytes) : UInt32 :=
  UInt32.ofNat (min b.length (UInt32.size - 1))

/-- A number that fits the word is told as it is. -/
theorem toNat_count16 {b : Bytes} (h : b.length < UInt16.size) : (count16 b).toNat = b.length := by
  rw [count16, Nat.min_eq_left (Nat.le_sub_one_of_lt h), UInt16.toNat_ofNat_of_lt' h]

theorem toNat_count32 {b : Bytes} (h : b.length < UInt32.size) : (count32 b).toNat = b.length := by
  rw [count32, Nat.min_eq_left (Nat.le_sub_one_of_lt h), UInt32.toNat_ofNat_of_lt' h]

/-- The bytes of a text in UTF-8. -/
def ofString (s : String) : Bytes :=
  s.toUTF8.data.toList

/-- Bytewise exclusive or, as long as the shorter of the two. -/
def xor (a b : Bytes) : Bytes :=
  List.zipWith (· ^^^ ·) a b

/-- The pieces of `n` bytes, in order; the last one may be shorter. -/
def chunks (n : Nat) (b : Bytes) : List Bytes :=
  if n = 0 ∨ b = [] then []
  else b.take n :: chunks n (b.drop n)
termination_by b.length
decreasing_by
  rename_i h
  have := List.length_pos_iff.2 (not_or.1 h).2
  simp only [List.length_drop]
  omega

/-- The byte string as an array of exactly `n` bytes, if it has that length. -/
def toVector? (n : Nat) (b : Bytes) : Option (Vector UInt8 n) :=
  if h : b.length = n then some ⟨b.toArray, by simp [h]⟩ else none

end Bytes

end Attest
