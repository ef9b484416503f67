import Attest.Proofs.Wire.Indexing
import Attest.Proofs.Wire.Rows

/-!
# Reads of any buffer

A reader may be given any bytes, and it may go on after a read that failed (`Attempt`). What a read
does is said once (`Shape.Reads`): it takes the bytes of a value; or it lacks bytes and takes none;
or it is that of a short string and finds nothing but the length byte. From this it follows for
every row of reads that no byte is lost and none is taken twice (`reads_keep_to_buffer`), and of
each read that it keeps to the buffer and tells the truth about what it lacks (`Attempt.Safe`).
-/

namespace Attest

namespace Wire

/-! ### One read -/

/-- How many bytes a read asks for before all others. -/
def Shape.least : Shape → Nat
  | byte => 1
  | word16 => 2
  | word32 => 4
  | raw n => n
  | short => 1

/-- All that a read at a cursor can do. -/
inductive Shape.Reads (shape : Shape) (c : Cursor) : EStateM.Result Truncated Cursor Field → Prop
  /-- It takes the bytes of a value of its shape. -/
  | value {f : Field} {c' : Cursor} (shaped : f.shape = shape) (uncut : f.cut = f)
      (moved : c.Over c' f.encode) : Reads shape c (.ok f c')
  /-- Too few bytes are left, and it takes none. -/
  | lacking (few : c.remaining < shape.least) :
      Reads shape c (.error ⟨shape.least, c.remaining⟩ c)
  /-- It takes the length byte of a string that is not all there. -/
  | bodiless {length : UInt8} {c' : Cursor} (string : shape = .short) (moved : c.Over c' [length])
      (few : c'.remaining < length.toNat) :
      Reads shape c (.error ⟨length.toNat, c'.remaining⟩ c')

/-- A read that takes its bytes all at once. -/
theorem Shape.reads_of {shape : Shape} {c : Cursor} {α : Type} {x : Reader α} {f : α → Field}
    (parts : shape.read = f <$> x) (needs : x.Needs shape.least)
    (takes : ∀ {a c'}, x c = .ok a c' →
      (f a).shape = shape ∧ (f a).cut = f a ∧ c.Over c' (f a).encode) :
    shape.Reads c (shape.read c) := by
  rw [parts]
  cases read : (f <$> x) c with
  | ok v c' =>
    obtain ⟨a, taken, rfl⟩ := Reader.map_ok_iff.1 read
    obtain ⟨shaped, uncut, moved⟩ := takes taken
    exact .value shaped uncut moved
  | error cause c' =>
    obtain ⟨few, rfl, rfl⟩ := (needs.map f).1 read
    exact .lacking few

/-- **What a read does**, whatever its shape and the buffer. -/
theorem Shape.reads (shape : Shape) (c : Cursor) : shape.Reads c (shape.read c) := by
  cases shape with
  | byte =>
    exact reads_of rfl Reader.needs_byte fun taken => ⟨rfl, rfl, Reader.byte_ok_iff.1 taken⟩
  | word16 =>
    exact reads_of rfl Reader.needs_word16 fun taken => ⟨rfl, rfl, Reader.word16_ok_iff.1 taken⟩
  | word32 =>
    exact reads_of rfl Reader.needs_word32 fun taken => ⟨rfl, rfl, Reader.word32_ok_iff.1 taken⟩
  | raw n =>
    refine reads_of rfl (Reader.needs_raw n) fun taken => ?_
    obtain ⟨rfl, moved⟩ := Reader.raw_ok_iff.1 taken
    exact ⟨rfl, rfl, moved⟩
  | short =>
    -- two reads in a row, and the first one may be all that succeeds
    cases read : Shape.short.read c with
    | ok v c' =>
      obtain ⟨b, taken, rfl⟩ := Reader.map_ok_iff.1 read
      obtain ⟨bound, moved⟩ := Reader.short_ok_iff.1 taken
      have uncut : Field.fitting b = b := List.take_of_length_le bound
      refine .value rfl (congrArg Field.short uncut) ?_
      rwa [Field.encode, uncut]
    | error cause c' =>
      obtain ⟨few, rfl, rfl⟩ | ⟨length, head, few, rfl⟩ :=
        Reader.short_error_iff.1 (Reader.map_error_iff.1 read)
      · exact .lacking few
      · exact .bodiless rfl head few

/-! ### Rows of reads -/

/-- A read that is tried at a cursor. -/
structure Attempt where
  shape : Shape
  before : Cursor

namespace Attempt

/-- What comes of it. -/
def result (a : Attempt) : EStateM.Result Truncated Cursor Field :=
  a.shape.read a.before

/-- Where the cursor stands afterwards, also if the read failed. -/
def after (a : Attempt) : Cursor :=
  match a.result with
  | .ok _ c => c
  | .error _ c => c

/-- The piece of the buffer that it takes away. -/
def taken (buffer : Bytes) (a : Attempt) : Bytes :=
  buffer.extract a.before.position a.after.position

theorem exists_over (a : Attempt) : ∃ bytes, a.before.Over a.after bytes := by
  have does : a.shape.Reads a.before a.result := a.shape.reads a.before
  unfold after
  generalize a.result = result at does
  cases does with
  | value _ _ moved => exact ⟨_, moved⟩
  | lacking => exact ⟨[], .refl _⟩
  | bodiless _ moved _ => exact ⟨_, moved⟩

/-- What is promised of a read in a buffer. -/
structure Safe (buffer : Bytes) (a : Attempt) : Prop where
  before : a.before.In buffer
  after : a.after.In buffer
  forward : a.before.position ≤ a.after.position
  /-- No index that it uses is outside of the buffer. -/
  inRange : IndexedReader.read buffer a.shape a.before.position = IndexedReader.located a.result
  /-- A value has the shape that was asked for, and is written in the piece that was taken. -/
  value : ∀ f c, a.result = .ok f c → f.shape = a.shape ∧ f.cut = f ∧ a.taken buffer = f.encode
  /-- More is needed than is left. Nothing was taken, or the length byte of a string. -/
  failure : ∀ cause c, a.result = .error cause c →
    cause.remaining < cause.needed ∧ cause.remaining = buffer.length - c.position ∧
      (c = a.before ∧ cause.needed = a.shape.least ∨
        a.shape = .short ∧ c = a.before.skip 1 ∧
          a.taken buffer = [UInt8.ofNat cause.needed] ∧ cause.needed ≤ 255)

theorem after_of_ok {a : Attempt} {f : Field} {c : Cursor} (h : a.result = .ok f c) :
    a.after = c := by
  rw [after, h]

theorem after_of_error {a : Attempt} {cause : Truncated} {c : Cursor}
    (h : a.result = .error cause c) : a.after = c := by
  rw [after, h]

theorem safe_of_in {buffer : Bytes} {a : Attempt} (before : a.before.In buffer) :
    a.Safe buffer := by
  obtain ⟨bytes, moved⟩ := a.exists_over
  have does : a.shape.Reads a.before a.result := a.shape.reads a.before
  refine ⟨before, before.over moved, ?_, IndexedReader.agrees_read a.shape before, ?_, ?_⟩
  · rw [moved.position]
    exact Nat.le_add_right _ _
  · intro f c read
    rw [taken, after_of_ok read]
    rw [read] at does
    cases does with
    | value shaped uncut moved => exact ⟨shaped, uncut, before.extract_eq moved⟩
  · intro cause c failed
    have there : c.In buffer := after_of_error failed ▸ before.over moved
    rw [taken, after_of_error failed]
    rw [failed] at does
    cases does with
    | lacking few => exact ⟨few, there.remaining_eq, .inl ⟨rfl, rfl⟩⟩
    | @bodiless length _ string moved few =>
      refine ⟨few, there.remaining_eq, .inr ⟨string, moved.eq_skip, ?_, ?_⟩⟩
      · rw [before.extract_eq moved, UInt8.ofNat_toNat]
      · exact Nat.le_of_lt_succ length.toNat_lt

end Attempt

/-- The reads of these shapes in a row. One that fails does not end it. -/
def attempts (c : Cursor) : List Shape → List Attempt
  | [] => []
  | shape :: rest =>
    let a : Attempt := ⟨shape, c⟩
    a :: attempts a.after rest

/-- Where the cursor stands at the end of the row. -/
def finish (c : Cursor) (shapes : List Shape) : Cursor :=
  shapes.foldl (fun c shape => Attempt.after ⟨shape, c⟩) c

variable {buffer : Bytes} {c : Cursor}

theorem safe_attempts (here : c.In buffer) (shapes : List Shape) :
    (finish c shapes).In buffer ∧
      ∀ a ∈ attempts c shapes, a.Safe buffer ∧ c.position ≤ a.before.position := by
  induction shapes generalizing c with
  | nil => exact ⟨here, nofun⟩
  | cons shape rest ih =>
    have first : Attempt.Safe buffer ⟨shape, c⟩ := Attempt.safe_of_in here
    obtain ⟨last, later⟩ := ih first.after
    refine ⟨last, fun a mem => ?_⟩
    rcases List.mem_cons.1 mem with rfl | mem
    · exact ⟨first, Nat.le_refl _⟩
    · exact ⟨(later a mem).1, first.forward.trans (later a mem).2⟩

theorem pairwise_attempts (here : c.In buffer) (shapes : List Shape) :
    (attempts c shapes).Pairwise fun a b => a.after.position ≤ b.before.position := by
  induction shapes generalizing c with
  | nil => exact .nil
  | cons shape rest ih =>
    have first : Attempt.Safe buffer ⟨shape, c⟩ := Attempt.safe_of_in here
    exact .cons (fun b mem => ((safe_attempts first.after rest).2 b mem).2) (ih first.after)

/-- The pieces that are taken, and what is left, are what was left before. -/
theorem flatten_taken (here : c.In buffer) (shapes : List Shape) :
    ((attempts c shapes).map (Attempt.taken buffer)).flatten ++ (finish c shapes).rest =
      c.rest := by
  induction shapes generalizing c with
  | nil => rfl
  | cons shape rest ih =>
    obtain ⟨bytes, moved⟩ := Attempt.exists_over ⟨shape, c⟩
    have piece : Attempt.taken buffer ⟨shape, c⟩ = bytes := here.extract_eq moved
    rw [attempts, List.map_cons, List.flatten_cons, piece, List.append_assoc]
    exact (congrArg (bytes ++ ·) (ih (here.over moved))).trans moved.rest.symm

/-- **Reads keep to their buffer**, whatever stands in it and whatever is asked for. -/
theorem reads_keep_to_buffer (buffer : Bytes) (shapes : List Shape) :
    let run := attempts (.start buffer) shapes
    let last := finish (.start buffer) shapes
    last.In buffer ∧
      (run.map (Attempt.taken buffer)).flatten ++ last.rest = buffer ∧
      run.Pairwise (fun a b => a.after.position ≤ b.before.position) ∧
      ∀ a ∈ run, a.Safe buffer := by
  have here := Cursor.in_start buffer
  obtain ⟨last, safe⟩ := safe_attempts here shapes
  exact ⟨last, flatten_taken here shapes, pairwise_attempts here shapes,
    fun a mem => (safe a mem).1⟩

/-- Reads of three bytes: a word that is too long for them, one that is not, and a string of which
only the length byte is there. -/
theorem sample_reads :
    let run := attempts (.start [1, 2, 3]) [.word32, .word16, .short]
    run.map Attempt.result =
        [.error ⟨4, 3⟩ ⟨0, [1, 2, 3]⟩, .ok (.word16 0x0201) ⟨2, [3]⟩, .error ⟨3, 0⟩ ⟨3, []⟩] ∧
      (run.map (Attempt.taken [1, 2, 3])).flatten = [1, 2, 3] ∧
      ⟨.short, ⟨2, [3]⟩⟩ ∈ run ∧ Attempt.Safe [1, 2, 3] ⟨.short, ⟨2, [3]⟩⟩ := by
  intro run
  obtain ⟨-, kept, -, safe⟩ := reads_keep_to_buffer [1, 2, 3] [.word32, .word16, .short]
  have mem : ⟨.short, ⟨2, [3]⟩⟩ ∈ run := .tail _ (.tail _ (.head _))
  exact ⟨rfl, (List.append_nil _).symm.trans kept, mem, safe _ mem⟩

end Wire

end Attest
