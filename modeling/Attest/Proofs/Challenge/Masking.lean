import Attest.Proofs.Challenge.Seeding

/-!
# Masks in challenges

The mask of a challenge shows in its tags and in its last byte, and nowhere else. As a cut of the
keys, it is the only part of them that gets into a message. `Challenge.stencil` tells which bytes it
changes; it reads the checks only.

* `Challenge.payload_eq_veil` : a payload is the payload with the mask zero, masked where the
  stencil lets it through;
* `Challenge.veiled_ofSelection` : **challenges for the same selection from the same seeds are the
  same but for their masks**: both fail alike, or they carry the same checks, leave the same seeds
  and differ by the masks in the bytes of the stencil.
-/

namespace Attest

namespace Challenge

open Wire (Field)

/-! ### Stencils -/

/-- Which bytes of the entries for checks are masked: the first one of each. -/
def entriesStencil (checks : List Check) : List Bool :=
  checks.flatMap fun c => true :: .replicate (entryLength c.kind - 1) false

/-- Which bytes of the payload for checks are masked: the tag of the timing probe, the tags of the
entries, and the last byte, which is the mask itself. -/
def stencil (checks : List Check) : List Bool :=
  .replicate (1 + (Field.encodeAll ((texts checks).map .short)).length + 1) false ++
    (true :: entriesStencil checks ++ [true])

/-- Masks the bytes that a stencil lets through. -/
def veil (stencil : List Bool) (mask : UInt8) (bytes : Bytes) : Bytes :=
  List.zipWith (fun masked b => if masked then b ^^^ mask else b) stencil bytes

theorem veil_append {a b : List Bool} {x y : Bytes} (h : a.length = x.length) (mask : UInt8) :
    veil (a ++ b) mask (x ++ y) = veil a mask x ++ veil b mask y :=
  List.zipWith_append h

theorem veil_true_cons (stencil : List Bool) (mask b : UInt8) (bytes : Bytes) :
    veil (true :: stencil) mask (b :: bytes) = (b ^^^ mask) :: veil stencil mask bytes := rfl

/-- A stencil that lets nothing through changes nothing. -/
theorem veil_replicate_false (mask : UInt8) (bytes : Bytes) :
    veil (.replicate bytes.length false) mask bytes = bytes := by
  induction bytes with
  | nil => rfl
  | cons b rest ih =>
    rw [List.length_cons, List.replicate_succ, veil, List.zipWith_cons_cons]
    exact congrArg (b :: ·) ih

/-! ### Payloads -/

variable {table : List Bytes} {kind : Check.Kind} {e : Entry} {checks : List Check}
  {es : List Entry}

theorem encode_maskedFields (mask : UInt8) (e : Entry) :
    Field.encodeAll (e.maskedFields mask) = (e.tag.byte ^^^ mask) :: Field.encodeAll e.fields := by
  simp [Entry.maskedFields, Field.encode, Wire.Tag.masked]

theorem entryLength_eq (h : Entry.Describes table kind e) :
    entryLength kind = (Field.encodeAll e.fields).length + 1 := by
  rw [← length_encode 0 h, encode_maskedFields, List.length_cons]

/-- Of an entry, the tag is masked. -/
theorem veil_encode (mask : UInt8) (h : Entry.Describes table kind e) :
    Field.encodeAll (e.maskedFields mask) =
      veil (true :: .replicate (entryLength kind - 1) false) mask
        (Field.encodeAll (e.maskedFields 0)) := by
  rw [entryLength_eq h, Nat.add_sub_cancel, encode_maskedFields, encode_maskedFields,
    veil_true_cons, veil_replicate_false, UInt8.xor_zero]

theorem veil_entries (mask : UInt8)
    (h : List.Forall₂ (fun c e => Entry.Describes table c.kind e) checks es) :
    Field.encodeAll (es.flatMap (Entry.maskedFields mask)) =
      veil (entriesStencil checks) mask (Field.encodeAll (es.flatMap (Entry.maskedFields 0))) := by
  induction h with
  | nil => rfl
  | @cons c e checks es here _ ih =>
    have length : (true :: List.replicate (entryLength c.kind - 1) false).length =
        (Field.encodeAll (e.maskedFields 0)).length := by
      simp [entryLength_eq here, encode_maskedFields]
    rw [entriesStencil, List.flatMap_cons, List.flatMap_cons, List.flatMap_cons,
      Field.encodeAll_append, Field.encodeAll_append, veil_append length, ← veil_encode mask here,
      ih]
    rfl

theorem length_entriesStencil
    (h : List.Forall₂ (fun c e => Entry.Describes table c.kind e) checks es) :
    (entriesStencil checks).length =
      (Field.encodeAll (es.flatMap (Entry.maskedFields 0))).length := by
  induction h with
  | nil => rfl
  | @cons c e checks es here _ ih =>
    rw [entriesStencil, List.flatMap_cons, List.flatMap_cons, Field.encodeAll_append,
      List.length_append, List.length_append, ← ih, length_encode 0 here, entryLength_eq here]
    simp [entriesStencil]

/-- What stands in front of the tag of the timing probe. -/
def opening (table : List Bytes) : Bytes :=
  Wire.ServerOpcode.checksRequest.byte ::
    (Field.encodeAll (table.map .short) ++ [Wire.stringsEnd])

theorem payload_eq_opening (mask : UInt8) (table : List Bytes) (es : List Entry) :
    Request.payload mask ⟨table, es⟩ =
      opening table ++ ((Wire.Tag.timing.byte ^^^ mask) ::
        Field.encodeAll (es.flatMap (Entry.maskedFields mask)) ++ [mask]) := by
  rw [payload_eq, front, opening, Wire.Tag.masked]
  simp

theorem length_opening (checks : List Check) :
    (opening (texts checks)).length =
      1 + (Field.encodeAll ((texts checks).map .short)).length + 1 := by
  simp [opening]
  omega

/-- **A payload is the one with the mask zero, masked in the bytes of the stencil.** -/
theorem payload_eq_veil (mask : UInt8)
    (h : List.Forall₂ (fun c e => Entry.Describes (texts checks) c.kind e) checks es) :
    Request.payload mask ⟨texts checks, es⟩ =
      veil (stencil checks) mask (Request.payload 0 ⟨texts checks, es⟩) := by
  have length : (true :: entriesStencil checks).length =
      ((Wire.Tag.timing.byte ^^^ 0) ::
        Field.encodeAll (es.flatMap (Entry.maskedFields 0))).length := by
    rw [List.length_cons, List.length_cons, length_entriesStencil h]
  -- part by part: the opening shows as it is, then the two tags, and last the mask itself
  rw [payload_eq_opening, payload_eq_opening, stencil, ← length_opening,
    veil_append List.length_replicate, veil_replicate_false, veil_append length, veil_true_cons,
    ← veil_entries mask h, UInt8.xor_zero]
  simp [veil]

theorem length_stencil
    (h : List.Forall₂ (fun c e => Entry.Describes (texts checks) c.kind e) checks es) :
    (stencil checks).length = (Request.payload 0 ⟨texts checks, es⟩).length := by
  rw [payload_eq_opening, stencil, ← length_opening]
  simp [length_entriesStencil h]

/-! ### Two masks -/

/-- Whether two payloads for checks are the same but for their masks. -/
def Veiled (checks : List Check) (mask mask' : UInt8) (p p' : Bytes) : Prop :=
  ∃ plain : Bytes, plain.length = (stencil checks).length ∧
    p = veil (stencil checks) mask plain ∧ p' = veil (stencil checks) mask' plain

theorem Veiled.length {mask mask' : UInt8} {p p' : Bytes} (h : Veiled checks mask mask' p p') :
    p.length = p'.length := by
  obtain ⟨plain, -, rfl, rfl⟩ := h
  simp [veil]

variable {catalog : Catalog} {build : Build}

/-- Whether a challenge can be built does not depend on the mask. -/
theorem ofSelection_error_mask {selection : Selection} {mask : UInt8} {seeds later : SeedStream}
    {fault : Fault}
    (broken : ofSelection catalog build selection mask seeds = (.error fault, later))
    (mask' : UInt8) :
    ofSelection catalog build selection mask' seeds = (.error fault, later) := by
  rcases h : request catalog build selection seeds with ⟨fault' | r, later'⟩
  · simpa only [ofSelection, h, Except.map] using broken
  · simp [ofSelection, h, Except.map] at broken

/-- **Challenges for the same selection from the same seeds are the same but for their masks.** Both
fail alike, or they carry the same checks, and their payloads are the same but for the masks. The
seeds that they leave are the same. -/
theorem veiled_ofSelection {selection : Selection} (well : selection.Of catalog build)
    (mask mask' : UInt8) (seeds : SeedStream) :
    (∃ fault later, ofSelection catalog build selection mask seeds = (.error fault, later) ∧
      ofSelection catalog build selection mask' seeds = (.error fault, later)) ∨
    ∃ p p' later,
      ofSelection catalog build selection mask seeds = (.ok ⟨p, selection.inFlight⟩, later) ∧
      ofSelection catalog build selection mask' seeds = (.ok ⟨p', selection.inFlight⟩, later) ∧
      Veiled (catalog.found build selection.inFlight) mask mask' p p' := by
  by_cases room : (texts (catalog.found build selection.inFlight)).length ≤ 255
  · obtain ⟨es, later, built, describes⟩ := entries_ok well.defined [] seeds room
    refine .inr ⟨_, _, later, ofSelection_of_entries well mask built,
      ofSelection_of_entries well mask' built, _, (length_stencil describes).symm,
      payload_eq_veil mask describes, payload_eq_veil mask' describes⟩
  · obtain ⟨later, broken⟩ := ofSelection_error well mask seeds (by omega)
    exact .inl ⟨_, later, broken, ofSelection_error_mask broken mask'⟩

end Challenge

end Attest
