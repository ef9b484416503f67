import Attest.Bytes

/-!
# Fields

A plain message is a row of fields: bytes, little-endian words, byte strings of a length that the
reader knows, and short strings behind a byte that tells their length.
-/

namespace Attest

namespace Wire

/-- A value in a message. -/
inductive Field where
  | byte (value : UInt8)
  | word16 (value : UInt16)
  | word32 (value : UInt32)
  /-- Bytes of a length that the reader knows. -/
  | raw (bytes : Bytes)
  /-- Bytes behind their length. -/
  | short (bytes : Bytes)
  deriving DecidableEq, Repr

namespace Field

/-- The part of a byte string that fits behind a length byte. -/
def fitting (b : Bytes) : Bytes :=
  b.take 255

/-- The bytes of a field. -/
def encode : Field → Bytes
  | byte b => [b]
  | word16 w => Bytes.le16 w
  | word32 w => Bytes.le32 w
  | raw b => b
  | short b => UInt8.ofNat (fitting b).length :: fitting b

/-- The bytes of a row of fields. -/
def encodeAll (fields : List Field) : Bytes :=
  fields.flatMap encode

@[simp] theorem encodeAll_nil : encodeAll [] = [] := rfl

@[simp] theorem encodeAll_cons (f : Field) (fields : List Field) :
    encodeAll (f :: fields) = f.encode ++ encodeAll fields := rfl

@[simp] theorem encodeAll_append (a b : List Field) :
    encodeAll (a ++ b) = encodeAll a ++ encodeAll b := by
  simp [encodeAll]

end Field

end Wire

end Attest
