import Attest.Proofs.Wire.Reading

/-!
# Reads by index

A cursor holds the bytes that are left, so its reads use no index. `IndexedReader` has the same
reads for a reader that holds the whole buffer and its position, and stops where an index is not one
of the buffer. In a buffer that the cursor stands in (`Cursor.In`) both do the same
(`IndexedReader.agrees_read`). A cursor's read has no such end, so no index leaves the buffer.
-/

namespace Attest

namespace Wire

/-! ### Places in a buffer -/

/-- Whether a cursor stands in a buffer. -/
structure Cursor.In (c : Cursor) (buffer : Bytes) : Prop where
  position_le : c.position ≤ buffer.length
  rest_eq : c.rest = buffer.drop c.position

namespace Cursor

variable {buffer bytes : Bytes} {c c' : Cursor}

theorem in_start (buffer : Bytes) : (start buffer).In buffer :=
  ⟨Nat.zero_le _, rfl⟩

theorem In.remaining_eq (h : c.In buffer) : c.remaining = buffer.length - c.position := by
  rw [remaining, h.rest_eq, List.length_drop]

theorem In.over (h : c.In buffer) (moved : c.Over c' bytes) : c'.In buffer := by
  constructor
  · have enough : bytes.length ≤ c.remaining := by
      rw [remaining, moved.rest, List.length_append]
      exact Nat.le_add_right _ _
    rw [h.remaining_eq] at enough
    have inside := h.position_le
    rw [moved.position]
    omega
  · rw [moved.position, ← List.drop_drop, ← h.rest_eq, moved.rest, List.drop_left]

/-- The bytes of a move are those between the two places. -/
theorem In.extract_eq (h : c.In buffer) (moved : c.Over c' bytes) :
    buffer.extract c.position c'.position = bytes := by
  rw [List.extract_eq_take_drop, ← h.rest_eq, moved.rest, moved.position, Nat.add_sub_cancel_left,
    List.take_left]

end Cursor

/-! ### Readers with an index -/

/-- Why a read by index ends early. -/
inductive Stop where
  /-- Fewer bytes are left than the value takes. -/
  | truncated (cause : Truncated)
  /-- An index is not one of the buffer. -/
  | outOfRange
  deriving DecidableEq, Repr

/-- A read at a position. -/
abbrev IndexedReader (α : Type) := EStateM Stop Nat α

namespace IndexedReader

variable (buffer : Bytes)

/-- Fails if fewer than `n` bytes are left. -/
def ensure (n : Nat) : IndexedReader Unit := fun position =>
  if buffer.length - position < n then .error (.truncated ⟨n, buffer.length - position⟩) position
  else .ok () position

/-- The byte at index `i`. -/
def byteAt (i : Nat) : IndexedReader UInt8 :=
  match buffer[i]? with
  | some b => pure b
  | none => throw .outOfRange

/-- The bytes from index `i` up to index `j`. -/
def slice (i j : Nat) : IndexedReader Bytes :=
  if i ≤ j ∧ j ≤ buffer.length then pure (buffer.extract i j) else throw .outOfRange

/-- Reads `n` bytes. -/
def raw (n : Nat) : IndexedReader Bytes := do
  ensure buffer n
  let position ← get
  let bytes ← slice buffer position (position + n)
  set (position + n)
  return bytes

/-- Reads one byte. -/
def byte : IndexedReader UInt8 := do
  ensure buffer 1
  let position ← get
  let b ← byteAt buffer position
  set (position + 1)
  return b

/-- Reads a word of two bytes. -/
def word16 : IndexedReader UInt16 := do
  match ← raw buffer 2 with
  | [b₀, b₁] => return Bytes.word16 b₀ b₁
  | _ => throw .outOfRange

/-- Reads a word of four bytes. -/
def word32 : IndexedReader UInt32 := do
  match ← raw buffer 4 with
  | [b₀, b₁, b₂, b₃] => return Bytes.word32 b₀ b₁ b₂ b₃
  | _ => throw .outOfRange

/-- Reads a byte string behind its length. -/
def short : IndexedReader Bytes := do
  let length ← byte buffer
  raw buffer length.toNat

/-- Reads a field of a shape. -/
def read : Shape → IndexedReader Field
  | .byte => .byte <$> byte buffer
  | .word16 => .word16 <$> word16 buffer
  | .word32 => .word32 <$> word32 buffer
  | .raw n => .raw <$> raw buffer n
  | .short => .short <$> short buffer

/-! ### Agreement -/

variable {α β : Type} {buffer : Bytes} {c : Cursor}

theorem bind_of_ok {y : IndexedReader α} {g : α → IndexedReader β} {i j : Nat} {a : α}
    (h : y i = .ok a j) : (y >>= g) i = g a j := by
  change EStateM.bind y g i = g a j
  rw [EStateM.bind, h]

theorem bind_of_error {y : IndexedReader α} {g : α → IndexedReader β} {i j : Nat} {stop : Stop}
    (h : y i = .error stop j) : (y >>= g) i = .error stop j := by
  change EStateM.bind y g i = .error stop j
  rw [EStateM.bind, h]

theorem ensure_of_le (here : c.In buffer) {n : Nat} (enough : n ≤ c.remaining) :
    ensure buffer n c.position = .ok () c.position := by
  rw [ensure, ← here.remaining_eq, if_neg (Nat.not_lt.2 enough)]

theorem ensure_of_lt (here : c.In buffer) {n : Nat} (few : c.remaining < n) :
    ensure buffer n c.position = .error (.truncated ⟨n, c.remaining⟩) c.position := by
  rw [ensure, ← here.remaining_eq, if_pos few]

theorem byteAt_of_in (here : c.In buffer) {b : UInt8} {rest : Bytes} (next : c.rest = b :: rest) :
    byteAt buffer c.position = pure b := by
  have found : buffer[c.position]? = some b := by
    rw [← List.head?_drop, ← here.rest_eq, next, List.head?_cons]
  rw [byteAt, found]

theorem slice_of_in (here : c.In buffer) {n : Nat} (enough : n ≤ c.remaining) :
    slice buffer c.position (c.position + n) = pure (c.rest.take n) := by
  have range : c.position ≤ c.position + n ∧ c.position + n ≤ buffer.length :=
    ⟨Nat.le_add_right _ _, (here.over (Cursor.over_skip enough)).position_le⟩
  have piece : buffer.extract c.position (c.position + n) = c.rest.take n :=
    here.extract_eq (Cursor.over_skip enough)
  rw [slice, if_pos range, piece]

/-- The end of a cursor's read, told by the position. -/
def located : EStateM.Result Truncated Cursor α → EStateM.Result Stop Nat α
  | .ok a c => .ok a c.position
  | .error cause c => .error (.truncated cause) c.position

/-- Whether a read by index does what a cursor's read does. -/
def Agrees (buffer : Bytes) (y : IndexedReader α) (x : Reader α) : Prop :=
  ∀ ⦃c : Cursor⦄, c.In buffer → y c.position = located (x c)

theorem Agrees.map {y : IndexedReader α} {x : Reader α} (h : Agrees buffer y x) (f : α → β) :
    Agrees buffer (f <$> y) (f <$> x) := by
  intro c here
  change EStateM.map f y c.position = located (EStateM.map f x c)
  rw [EStateM.map, EStateM.map, h here]
  cases x c <;> rfl

/-- Reads in a row agree if the first one only moves the cursor. -/
theorem Agrees.bind {y : IndexedReader α} {x : Reader α} {g : α → IndexedReader β}
    {f : α → Reader β} (first : Agrees buffer y x) (later : ∀ a, Agrees buffer (g a) (f a))
    (moves : ∀ {c a c'}, x c = .ok a c' → ∃ bytes, c.Over c' bytes) :
    Agrees buffer (y >>= g) (x >>= f) := by
  intro c here
  have same := first here
  change _ = located (EStateM.bind x f c)
  rw [EStateM.bind]
  cases read : x c with
  | ok a c₁ =>
    rw [read] at same
    obtain ⟨bytes, moved⟩ := moves read
    exact (bind_of_ok same).trans (later a (here.over moved))
  | error cause c₁ =>
    rw [read] at same
    exact bind_of_error same

theorem agrees_raw (n : Nat) : Agrees buffer (raw buffer n) (Reader.raw n) := by
  intro c here
  rw [raw, Reader.raw]
  by_cases enough : n ≤ c.remaining
  · rw [if_pos enough, bind_of_ok (ensure_of_le here enough)]
    change (slice buffer c.position (c.position + n) >>= _) c.position = _
    rw [slice_of_in here enough]
    rfl
  · rw [if_neg enough, bind_of_error (ensure_of_lt here (Nat.lt_of_not_le enough))]
    rfl

theorem agrees_byte : Agrees buffer (byte buffer) Reader.byte := by
  intro c here
  rw [byte, Reader.byte]
  cases next : c.rest with
  | nil =>
    have few : c.remaining < 1 := by simp [Cursor.remaining, next]
    rw [bind_of_error (ensure_of_lt here few)]
    rfl
  | cons b rest =>
    have enough : 1 ≤ c.remaining := by simp [Cursor.remaining, next]
    rw [bind_of_ok (ensure_of_le here enough)]
    change (byteAt buffer c.position >>= _) c.position = _
    rw [byteAt_of_in here next]
    rfl

theorem agrees_word16 : Agrees buffer (word16 buffer) Reader.word16 := by
  rintro ⟨position, rest⟩ here
  -- the word is put together from a piece of its length, which is there or not
  have piece := agrees_raw 2 here
  match rest with
  | [] | [_] => exact bind_of_error piece
  | _ :: _ :: _ => exact bind_of_ok piece

theorem agrees_word32 : Agrees buffer (word32 buffer) Reader.word32 := by
  rintro ⟨position, rest⟩ here
  have piece := agrees_raw 4 here
  match rest with
  | [] | [_] | [_, _] | [_, _, _] => exact bind_of_error piece
  | _ :: _ :: _ :: _ :: _ => exact bind_of_ok piece

theorem agrees_short : Agrees buffer (short buffer) Reader.short :=
  agrees_byte.bind (fun length => agrees_raw length.toNat) fun read =>
    ⟨_, Reader.byte_ok_iff.1 read⟩

/-- **Reading by index is reading at a cursor.** -/
theorem agrees_read (shape : Shape) : Agrees buffer (read buffer shape) shape.read := by
  cases shape with
  | byte => exact agrees_byte.map Field.byte
  | word16 => exact agrees_word16.map Field.word16
  | word32 => exact agrees_word32.map Field.word32
  | raw n => exact (agrees_raw n).map Field.raw
  | short => exact agrees_short.map Field.short

end IndexedReader

end Wire

end Attest
