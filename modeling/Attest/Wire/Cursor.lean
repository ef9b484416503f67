import Attest.Wire.Field

/-!
# Reading a message

A cursor stands in a buffer: it knows how many bytes are behind it and holds those before it. A
`Reader` takes a value from the cursor or says how many bytes it lacked. A read that fails leaves
the cursor where it was; `Reader.short` is two reads, and its length byte stays read.
-/

namespace Attest

namespace Wire

/-- The buffer ended before a value did. -/
structure Truncated where
  /-- How many bytes the value takes. -/
  needed : Nat
  /-- How many bytes were left. -/
  remaining : Nat
  deriving DecidableEq, Repr

/-- The shortfall in words. -/
def Truncated.message (t : Truncated) : String :=
  s!"payload truncated: needed {t.needed} bytes, {t.remaining} remaining"

/-- A place in a buffer. -/
structure Cursor where
  /-- How many bytes were read. -/
  position : Nat
  /-- The bytes that were not read. -/
  rest : Bytes
  deriving DecidableEq, Repr

namespace Cursor

/-- The start of a buffer. -/
def start (buffer : Bytes) : Cursor :=
  ⟨0, buffer⟩

/-- How many bytes were not read. -/
def remaining (c : Cursor) : Nat :=
  c.rest.length

/-- The cursor `n` bytes further on. -/
def skip (c : Cursor) (n : Nat) : Cursor :=
  ⟨c.position + n, c.rest.drop n⟩

end Cursor

/-- A read at a cursor. -/
abbrev Reader (α : Type) := EStateM Truncated Cursor α

namespace Reader

/-- Reads `n` bytes. -/
def raw (n : Nat) : Reader Bytes := fun c =>
  if n ≤ c.remaining then .ok (c.rest.take n) (c.skip n)
  else .error ⟨n, c.remaining⟩ c

/-- Reads one byte. -/
def byte : Reader UInt8 := fun c =>
  match c.rest with
  | b :: _ => .ok b (c.skip 1)
  | [] => .error ⟨1, c.remaining⟩ c

/-- Reads a word of two bytes. -/
def word16 : Reader UInt16 := fun c =>
  match c.rest with
  | b₀ :: b₁ :: _ => .ok (Bytes.word16 b₀ b₁) (c.skip 2)
  | _ => .error ⟨2, c.remaining⟩ c

/-- Reads a word of four bytes. -/
def word32 : Reader UInt32 := fun c =>
  match c.rest with
  | b₀ :: b₁ :: b₂ :: b₃ :: _ => .ok (Bytes.word32 b₀ b₁ b₂ b₃) (c.skip 4)
  | _ => .error ⟨4, c.remaining⟩ c

/-- Reads a byte string behind its length. -/
def short : Reader Bytes := do
  let length ← byte
  raw length.toNat

end Reader

/-- What a reader has to know of a field. -/
inductive Shape where
  | byte
  | word16
  | word32
  | raw (length : Nat)
  | short
  deriving DecidableEq, Repr

/-- The shape under which a field is read. -/
def Field.shape : Field → Shape
  | .byte _ => .byte
  | .word16 _ => .word16
  | .word32 _ => .word32
  | .raw b => .raw b.length
  | .short _ => .short

/-- Reads a field of a shape. -/
def Shape.read : Shape → Reader Field
  | .byte => .byte <$> Reader.byte
  | .word16 => .word16 <$> Reader.word16
  | .word32 => .word32 <$> Reader.word32
  | .raw n => .raw <$> Reader.raw n
  | .short => .short <$> Reader.short

end Wire

end Attest
