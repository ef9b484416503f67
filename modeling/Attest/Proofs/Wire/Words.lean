import Attest.Bytes
import Mathlib.Algebra.Group.Nat.Defs

/-!
# Words and their bytes

`Bytes.le16` and `Bytes.le32` are the inverses of `Bytes.word16` and `Bytes.word32`. All four are
compared through the numbers that they stand for.
-/

namespace Attest

namespace Bytes

theorem or_shiftLeft_eq_add {a k : Nat} (b : Nat) (h : a < 2 ^ k) :
    a ||| b <<< k = a + 2 ^ k * b := by
  rw [Nat.or_comm, ← Nat.shiftLeft_add_eq_or_of_lt h, Nat.shiftLeft_eq, Nat.add_comm,
    Nat.mul_comm]

theorem toNat_word16 (b₀ b₁ : UInt8) : (word16 b₀ b₁).toNat = b₀.toNat + 256 * b₁.toNat := by
  have h₀ := b₀.toNat_lt
  have h₁ := b₁.toNat_lt
  have shifted : (b₁.toUInt16 <<< 8).toNat = b₁.toNat <<< 8 := by
    simp only [UInt16.toNat_shiftLeft, UInt8.toNat_toUInt16]
    exact Nat.mod_eq_of_lt (by simp [Nat.shiftLeft_eq]; omega)
  have joined : b₀.toNat ||| b₁.toNat <<< 8 = b₀.toNat + 256 * b₁.toNat :=
    or_shiftLeft_eq_add _ h₀
  rw [word16, UInt16.toNat_or, shifted, UInt8.toNat_toUInt16, joined]

/-- A byte that is moved by three places at most keeps all its bits. -/
theorem toNat_toUInt32_shiftLeft (b : UInt8) {k : UInt32} (h : k.toNat ≤ 24) :
    (b.toUInt32 <<< k).toNat = b.toNat <<< k.toNat := by
  have small := b.toNat_lt
  have scale : 2 ^ k.toNat ≤ 2 ^ 24 := Nat.pow_le_pow_right (by decide) h
  have bound : b.toNat <<< k.toNat < 2 ^ 32 := by
    rw [Nat.shiftLeft_eq]
    calc b.toNat * 2 ^ k.toNat ≤ 255 * 2 ^ 24 := Nat.mul_le_mul (by omega) scale
      _ < 2 ^ 32 := by decide
  rw [UInt32.toNat_shiftLeft, UInt8.toNat_toUInt32, Nat.mod_eq_of_lt (by omega : k.toNat < 32),
    Nat.mod_eq_of_lt bound]

theorem toNat_word32 (b₀ b₁ b₂ b₃ : UInt8) :
    (word32 b₀ b₁ b₂ b₃).toNat =
      b₀.toNat + 256 * b₁.toNat + 65536 * b₂.toNat + 16777216 * b₃.toNat := by
  have h₀ := b₀.toNat_lt
  have h₁ := b₁.toNat_lt
  have h₂ := b₂.toNat_lt
  have h₃ := b₃.toNat_lt
  have shifted₁ : (b₁.toUInt32 <<< 8).toNat = b₁.toNat <<< 8 :=
    toNat_toUInt32_shiftLeft b₁ (by decide)
  have shifted₂ : (b₂.toUInt32 <<< 16).toNat = b₂.toNat <<< 16 :=
    toNat_toUInt32_shiftLeft b₂ (by decide)
  have shifted₃ : (b₃.toUInt32 <<< 24).toNat = b₃.toNat <<< 24 :=
    toNat_toUInt32_shiftLeft b₃ (by decide)
  -- the bytes are put in from the low end, so each meets zeros only
  have joined₁ : b₀.toNat ||| b₁.toNat <<< 8 = b₀.toNat + 256 * b₁.toNat :=
    or_shiftLeft_eq_add _ h₀
  have joined₂ : (b₀.toNat + 256 * b₁.toNat) ||| b₂.toNat <<< 16 =
      b₀.toNat + 256 * b₁.toNat + 65536 * b₂.toNat := or_shiftLeft_eq_add _ (by omega)
  have joined₃ : (b₀.toNat + 256 * b₁.toNat + 65536 * b₂.toNat) ||| b₃.toNat <<< 24 =
      b₀.toNat + 256 * b₁.toNat + 65536 * b₂.toNat + 16777216 * b₃.toNat :=
    or_shiftLeft_eq_add _ (by omega)
  rw [word32, UInt32.toNat_or, UInt32.toNat_or, UInt32.toNat_or, shifted₁, shifted₂, shifted₃,
    UInt8.toNat_toUInt32, joined₁, joined₂, joined₃]

@[simp] theorem word16_le16 (w : UInt16) : word16 w.toUInt8 (w >>> 8).toUInt8 = w := by
  have := w.toNat_lt
  rw [← UInt16.toNat_inj, toNat_word16]
  simp only [UInt16.toNat_toUInt8, UInt16.toNat_shiftRight, Nat.shiftRight_eq_div_pow]
  simp
  omega

@[simp] theorem word32_le32 (w : UInt32) :
    word32 w.toUInt8 (w >>> 8).toUInt8 (w >>> 16).toUInt8 (w >>> 24).toUInt8 = w := by
  have := w.toNat_lt
  rw [← UInt32.toNat_inj, toNat_word32]
  simp only [UInt32.toNat_toUInt8, UInt32.toNat_shiftRight, Nat.shiftRight_eq_div_pow]
  simp
  omega

@[simp] theorem le16_word16 (b₀ b₁ : UInt8) : le16 (word16 b₀ b₁) = [b₀, b₁] := by
  have h₀ := b₀.toNat_lt
  have h₁ := b₁.toNat_lt
  simp only [le16, List.cons.injEq, and_true, ← UInt8.toNat_inj, UInt16.toNat_toUInt8,
    UInt16.toNat_shiftRight, Nat.shiftRight_eq_div_pow, toNat_word16]
  simp
  omega

@[simp] theorem le32_word32 (b₀ b₁ b₂ b₃ : UInt8) :
    le32 (word32 b₀ b₁ b₂ b₃) = [b₀, b₁, b₂, b₃] := by
  have h₀ := b₀.toNat_lt
  have h₁ := b₁.toNat_lt
  have h₂ := b₂.toNat_lt
  have h₃ := b₃.toNat_lt
  simp only [le32, List.cons.injEq, and_true, ← UInt8.toNat_inj, UInt32.toNat_toUInt8,
    UInt32.toNat_shiftRight, Nat.shiftRight_eq_div_pow, toNat_word32]
  simp
  omega

theorem le16_injective {v w : UInt16} (h : le16 v = le16 w) : v = w := by
  simp only [le16, List.cons.injEq, and_true] at h
  rw [← word16_le16 v, ← word16_le16 w, h.1, h.2]

theorem le32_injective {v w : UInt32} (h : le32 v = le32 w) : v = w := by
  simp only [le32, List.cons.injEq, and_true] at h
  obtain ⟨h₀, h₁, h₂, h₃⟩ := h
  rw [← word32_le32 v, ← word32_le32 w, h₀, h₁, h₂, h₃]

end Bytes

end Attest
