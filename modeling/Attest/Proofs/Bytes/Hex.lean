import Attest.Bytes.Hex

/-!
# Hexadecimal text reads back

`Hex.decode` is indifferent to how the digits are written, as long as each has its value:
`Hex.decode_spelled` says so of all ways to write digits. Lower case (`Hex.decode_encode`) and
upper case (`Hex.decode_encode_toUpper`) are two of them.
-/

namespace Attest

namespace Bytes

/-- A text of ASCII characters has one byte for each of them. -/
theorem ofString_ofList {text : List Char} (ascii : ∀ c ∈ text, c.toNat < 128) :
    ofString (String.ofList text) = text.map Char.toUInt8 := by
  rw [ofString, String.toUTF8_eq_toByteArray, String.toByteArray_ofList]
  induction text with
  | nil => rfl
  | cons c rest ih =>
    have first : c.utf8Size = 1 := by
      rw [Char.utf8Size_eq_one_iff, UInt32.le_iff_toNat_le]
      exact Nat.le_of_lt_succ (ascii c List.mem_cons_self)
    rw [List.utf8Encode_cons, List.utf8Encode_singleton, String.utf8EncodeChar_eq_singleton first,
      ByteArray.data_append, Array.toList_append,
      ih fun d hd => ascii d (List.mem_cons_of_mem _ hd)]
    rfl

end Bytes

namespace Hex

/-- A way to write the sixteen digits, each as one byte that has its value. -/
structure Glyphs (glyph : Nat → Char) : Prop where
  ascii : ∀ n < 16, (glyph n).toNat < 128
  value : ∀ n < 16, digitValue? (glyph n).toUInt8 = some (UInt8.ofNat n)

/-- The two digits of a byte. -/
def spelled (glyph : Nat → Char) (b : UInt8) : List Char :=
  [glyph (b.toNat / 16), glyph (b.toNat % 16)]

variable {glyph : Nat → Char}

theorem glyphs_digit : Glyphs digit :=
  ⟨by decide, by decide⟩

theorem glyphs_toUpper : Glyphs fun n => (digit n).toUpper :=
  ⟨by decide, by decide⟩

/-- The two digits of a byte put it together again. -/
theorem join_digits (b : UInt8) :
    UInt8.ofNat (b.toNat / 16) * 16 + UInt8.ofNat (b.toNat % 16) = b := by
  have bound := b.toNat_lt
  rw [← UInt8.toNat_inj, UInt8.toNat_add, UInt8.toNat_mul, UInt8.toNat_ofNat', UInt8.toNat_ofNat']
  simp
  omega

theorem decodePairs_spelled (h : Glyphs glyph) (position : Nat) (b : Bytes) :
    decodePairs position ((b.flatMap (spelled glyph)).map Char.toUInt8) = .ok b := by
  induction b generalizing position with
  | nil => rfl
  | cons byte rest ih =>
    have bound := byte.toNat_lt
    have high := h.value (byte.toNat / 16) (by omega)
    have low := h.value (byte.toNat % 16) (by omega)
    simp only [List.flatMap_cons, spelled, List.cons_append, List.nil_append, List.map_cons,
      decodePairs, high, low]
    rw [ih, Except.map, join_digits]

/-- Digits are read back however they are written. -/
theorem decode_spelled (h : Glyphs glyph) (b : Bytes) :
    decode (String.ofList (b.flatMap (spelled glyph))) = .ok b := by
  have ascii : ∀ c ∈ b.flatMap (spelled glyph), c.toNat < 128 := by
    intro c hc
    obtain ⟨byte, -, hc⟩ := List.mem_flatMap.1 hc
    have bound := byte.toNat_lt
    simp only [spelled, List.mem_cons, List.not_mem_nil, or_false] at hc
    rcases hc with rfl | rfl
    · exact h.ascii _ (by omega)
    · exact h.ascii _ (by omega)
  have even : (b.flatMap (spelled glyph)).length % 2 = 0 := by
    simp only [List.length_flatMap, spelled, List.length_cons, List.length_nil, List.map_const',
      List.sum_replicate_nat]
    exact Nat.mul_mod_left _ 2
  rw [decode, Bytes.ofString_ofList ascii, List.length_map, if_neg (by omega),
    decodePairs_spelled h]

/-- What is written in lower case is read back. -/
theorem decode_encode (b : Bytes) : decode (encode b) = .ok b :=
  decode_spelled glyphs_digit b

/-- What is written in upper case is read back. -/
theorem decode_encode_toUpper (b : Bytes) : decode (encode b).toUpper = .ok b := by
  have upper : (encode b).toUpper =
      String.ofList (b.flatMap (spelled fun n => (digit n).toUpper)) := by
    rw [← String.toList_inj, String.toUpper, String.toList_map, encode, String.toList_ofList,
      String.toList_ofList, List.map_flatMap]
    rfl
  rw [upper, decode_spelled glyphs_toUpper]

end Hex

end Attest
