import Attest.Proofs.Wire.Reading
import Mathlib.Algebra.Order.Ring.Nat

/-!
# Rows of fields

A row of fields is written field by field and read in the same order, each under the shape of the
field that was written. Every field is found as it was, but for the part of a short string that does
not fit behind its length byte (`Field.cut`); the read of a field takes the bytes of that field and
no others (`Shape.takes_read`), so whatever follows the row makes no difference to it
(`Field.row_read_back`).
-/

namespace Attest

namespace Wire

namespace Field

/-- What a reader finds of a field. -/
def cut : Field → Field
  | short b => short (b.take 255)
  | f => f

/-- How many bytes a field takes. -/
def size : Field → Nat
  | byte _ => 1
  | word16 _ => 2
  | word32 _ => 4
  | raw b => b.length
  | short b => 1 + min b.length 255

theorem length_fitting (b : Bytes) : (fitting b).length = min b.length 255 := by
  rw [fitting, List.length_take, Nat.min_comm]

theorem length_encode (f : Field) : f.encode.length = f.size := by
  cases f with
  | short b => rw [encode, size, List.length_cons, length_fitting, Nat.add_comm]
  | _ => rfl

theorem length_encodeAll (fields : List Field) :
    (encodeAll fields).length = (fields.map size).sum := by
  rw [encodeAll, List.length_flatMap]
  exact congrArg List.sum (List.map_congr_left fun f _ => length_encode f)

end Field

/-- A field is read under its shape. -/
theorem Shape.takes_read (f : Field) : f.shape.read.Takes f.encode f.cut := by
  cases f with
  | byte b => exact (Reader.takes_byte b).map Field.byte
  | word16 w => exact (Reader.takes_word16 w).map Field.word16
  | word32 w => exact (Reader.takes_word32 w).map Field.word32
  | raw b => exact (Reader.takes_raw rfl).map Field.raw
  | short b =>
    have fits : (Field.fitting b).length ≤ 255 := List.length_take_le 255 b
    exact (Reader.takes_short fits).map Field.short

/-- A row is read under its shapes. -/
theorem Shape.takes_mapM_read (fields : List Field) :
    ((fields.map Field.shape).mapM Shape.read).Takes (Field.encodeAll fields)
      (fields.map Field.cut) := by
  induction fields with
  | nil => exact Reader.takes_pure []
  | cons f rest ih =>
    rw [List.map_cons, List.mapM_cons, Field.encodeAll_cons, List.map_cons]
    exact (takes_read f).bind (ih.finish (Reader.takes_pure _))

/-- **A row of fields is read back**, whatever follows it: each field as it was, a short string up
to its 255th byte. -/
theorem Field.row_read_back (fields : List Field) :
    (encodeAll fields).length = (fields.map size).sum ∧
      (∃ c, (fields.map shape).mapM Shape.read (Cursor.start (encodeAll fields)) =
          .ok (fields.map cut) c ∧ c.remaining = 0) ∧
      ∀ more, ∃ c, (fields.map shape).mapM Shape.read (Cursor.start (encodeAll fields ++ more)) =
          .ok (fields.map cut) c ∧ c.rest = more := by
  have taken : ∀ more,
      (fields.map shape).mapM Shape.read (Cursor.start (encodeAll fields ++ more)) =
        .ok (fields.map cut) ⟨0 + (encodeAll fields).length, more⟩ :=
    fun more => Shape.takes_mapM_read fields ⟨rfl, rfl⟩
  have alone := taken []
  rw [List.append_nil] at alone
  exact ⟨length_encodeAll fields, ⟨_, alone, List.length_nil⟩, fun more => ⟨_, taken more, rfl⟩⟩

end Wire

end Attest
