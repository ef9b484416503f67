import Attest.Proofs.Wire.Words
import Attest.Wire.Cursor

/-!
# What a read takes from its buffer

`Cursor.Over c c' bytes` says that the cursor has moved over `bytes` from `c` to `c'`. A read is
known when it is known over which bytes it moves: for each of them there is an equivalence between
its success and such a move (`Reader.byte_ok_iff`, `Reader.raw_ok_iff`, …), which holds of all
buffers. Reads in a row move over the bytes of one after the other (`Reader.bind_ok_iff`,
`Cursor.Over.trans`), and a read of known bytes finds its value wherever they stand
(`Reader.Takes`). A read that fails lacks bytes, and tells so (`Reader.FailsShort`); one that takes
its bytes all at once fails just where too few remain (`Reader.Needs`).
-/

namespace Attest

namespace Wire

/-- The cursor moves over these bytes. -/
structure Cursor.Over (c c' : Cursor) (bytes : Bytes) : Prop where
  rest : c.rest = bytes ++ c'.rest
  position : c'.position = c.position + bytes.length

namespace Cursor

theorem Over.refl (c : Cursor) : Over c c [] := ⟨rfl, rfl⟩

theorem Over.trans {c c' c'' : Cursor} {a b : Bytes} (h : Over c c' a) (h' : Over c' c'' b) :
    Over c c'' (a ++ b) := by
  constructor
  · rw [h.rest, h'.rest, List.append_assoc]
  · rw [h'.position, h.position, List.length_append, Nat.add_assoc]

theorem over_nil_iff {c c' : Cursor} : Over c c' [] ↔ c' = c := by
  constructor
  · intro h
    obtain ⟨position, rest⟩ := c
    obtain ⟨position', rest'⟩ := c'
    have hr := h.rest
    have hp := h.position
    simp only [List.nil_append, List.length_nil, Nat.add_zero] at hr hp
    rw [hr, hp]
  · rintro rfl
    exact Over.refl c'

/-- A move over a row of bytes stops on the way. -/
theorem over_append_iff {c c'' : Cursor} {a b : Bytes} :
    Over c c'' (a ++ b) ↔ ∃ c', Over c c' a ∧ Over c' c'' b := by
  constructor
  · intro h
    refine ⟨⟨c.position + a.length, b ++ c''.rest⟩, ⟨?_, rfl⟩, ⟨rfl, ?_⟩⟩
    · rw [h.rest, List.append_assoc]
    · rw [h.position, List.length_append, Nat.add_assoc]
  · rintro ⟨c', h, h'⟩
    exact h.trans h'

theorem length_take_rest {c : Cursor} {n : Nat} (h : n ≤ c.remaining) :
    (c.rest.take n).length = n :=
  List.length_take_of_le h

theorem over_skip {c : Cursor} {n : Nat} (h : n ≤ c.remaining) :
    Over c (c.skip n) (c.rest.take n) := by
  constructor
  · exact (List.take_append_drop n c.rest).symm
  · rw [length_take_rest h, skip]

/-- The bytes of a move tell where it ends. -/
theorem Over.eq_skip {c c' : Cursor} {bytes : Bytes} (h : Over c c' bytes) :
    c' = c.skip bytes.length := by
  obtain ⟨position, rest⟩ := c
  obtain ⟨position', rest'⟩ := c'
  have hr := h.rest
  have hp := h.position
  simp only at hr hp
  rw [skip, hr, hp, List.drop_left]

theorem over_start {buffer bytes : Bytes} {c : Cursor} (h : Over (start buffer) c bytes) :
    buffer = bytes ++ c.rest :=
  h.rest

end Cursor

namespace Reader

variable {α β : Type}

theorem pure_ok_iff {a b : α} {c c' : Cursor} :
    (pure a : Reader α) c = .ok b c' ↔ b = a ∧ c' = c := by
  change EStateM.Result.ok a c = .ok b c' ↔ _
  rw [EStateM.Result.ok.injEq, eq_comm, eq_comm (a := c)]

theorem bind_ok_iff {x : Reader α} {f : α → Reader β} {c c' : Cursor} {b : β} :
    (x >>= f) c = .ok b c' ↔ ∃ a c₁, x c = .ok a c₁ ∧ f a c₁ = .ok b c' := by
  change EStateM.bind x f c = _ ↔ _
  unfold EStateM.bind
  cases x c with
  | ok a c₁ =>
    refine ⟨fun h => ⟨a, c₁, rfl, h⟩, ?_⟩
    rintro ⟨_, _, h, h'⟩
    cases h
    exact h'
  | error e c₁ =>
    refine ⟨nofun, ?_⟩
    rintro ⟨_, _, h, -⟩
    cases h

theorem map_ok_iff {x : Reader α} {f : α → β} {c c' : Cursor} {b : β} :
    (f <$> x) c = .ok b c' ↔ ∃ a, x c = .ok a c' ∧ f a = b := by
  change EStateM.map f x c = _ ↔ _
  unfold EStateM.map
  cases x c with
  | ok a c₁ =>
    constructor
    · intro h
      cases h
      exact ⟨a, rfl, rfl⟩
    · rintro ⟨_, h, rfl⟩
      cases h
      rfl
  | error cause c₁ => simp

theorem raw_ok_iff {n : Nat} {bytes : Bytes} {c c' : Cursor} :
    raw n c = .ok bytes c' ↔ bytes.length = n ∧ c.Over c' bytes := by
  unfold raw
  split
  case isTrue h =>
    rw [EStateM.Result.ok.injEq]
    constructor
    · rintro ⟨rfl, rfl⟩
      exact ⟨Cursor.length_take_rest h, Cursor.over_skip h⟩
    · rintro ⟨rfl, moved⟩
      exact ⟨by rw [moved.rest, List.take_left], moved.eq_skip.symm⟩
  case isFalse h =>
    refine ⟨nofun, ?_⟩
    rintro ⟨rfl, moved⟩
    refine absurd ?_ h
    rw [Cursor.remaining, moved.rest, List.length_append]
    exact Nat.le_add_right _ _

theorem byte_ok_iff {b : UInt8} {c c' : Cursor} :
    byte c = .ok b c' ↔ c.Over c' [b] := by
  obtain ⟨position, rest⟩ := c
  cases rest with
  | nil =>
    refine ⟨nofun, fun moved => ?_⟩
    exact absurd moved.rest (by simp)
  | cons a rest =>
    change EStateM.Result.ok a (Cursor.skip ⟨position, a :: rest⟩ 1) = .ok b c' ↔ _
    rw [EStateM.Result.ok.injEq]
    constructor
    · rintro ⟨rfl, rfl⟩
      exact ⟨rfl, rfl⟩
    · intro moved
      obtain ⟨rfl, -⟩ := List.cons_eq_cons.1 moved.rest
      exact ⟨rfl, moved.eq_skip.symm⟩

theorem word16_ok_iff {w : UInt16} {c c' : Cursor} :
    word16 c = .ok w c' ↔ c.Over c' (Bytes.le16 w) := by
  obtain ⟨position, rest⟩ := c
  constructor
  · intro h
    match rest, h with
    | b₀ :: b₁ :: rest, h =>
      obtain ⟨rfl, rfl⟩ := EStateM.Result.ok.inj h
      rw [Bytes.le16_word16]
      exact ⟨rfl, rfl⟩
  · intro moved
    have hr : rest = Bytes.le16 w ++ c'.rest := moved.rest
    subst hr
    rw [moved.eq_skip]
    exact congrArg (EStateM.Result.ok · _) (Bytes.word16_le16 w)

theorem word32_ok_iff {w : UInt32} {c c' : Cursor} :
    word32 c = .ok w c' ↔ c.Over c' (Bytes.le32 w) := by
  obtain ⟨position, rest⟩ := c
  constructor
  · intro h
    match rest, h with
    | b₀ :: b₁ :: b₂ :: b₃ :: rest, h =>
      obtain ⟨rfl, rfl⟩ := EStateM.Result.ok.inj h
      rw [Bytes.le32_word32]
      exact ⟨rfl, rfl⟩
  · intro moved
    have hr : rest = Bytes.le32 w ++ c'.rest := moved.rest
    subst hr
    rw [moved.eq_skip]
    exact congrArg (EStateM.Result.ok · _) (Bytes.word32_le32 w)

theorem ofNat_toNat_length {bytes : Bytes} (h : bytes.length ≤ 255) :
    (UInt8.ofNat bytes.length).toNat = bytes.length := by
  rw [UInt8.toNat_ofNat']
  exact Nat.mod_eq_of_lt (by omega)

theorem short_ok_iff {bytes : Bytes} {c c' : Cursor} :
    short c = .ok bytes c' ↔
      bytes.length ≤ 255 ∧ c.Over c' (UInt8.ofNat bytes.length :: bytes) := by
  simp only [short, bind_ok_iff, byte_ok_iff, raw_ok_iff]
  constructor
  · rintro ⟨n, c₁, head, length, tail⟩
    have bound := n.toNat_lt
    have hn : UInt8.ofNat bytes.length = n := by rw [length, UInt8.ofNat_toNat]
    rw [hn]
    exact ⟨by omega, head.trans tail⟩
  · rintro ⟨bound, moved⟩
    obtain ⟨c₁, head, tail⟩ := Cursor.over_append_iff (a := [_]).1 moved
    exact ⟨_, c₁, head, (ofNat_toNat_length bound).symm, tail⟩

/-! ### Reads of known bytes -/

/-- Whether a read takes these bytes for this value, wherever they stand. -/
def Takes (x : Reader α) (bytes : Bytes) (a : α) : Prop :=
  ∀ ⦃c c' : Cursor⦄, c.Over c' bytes → x c = .ok a c'

theorem takes_pure (a : α) : (pure a : Reader α).Takes [] a :=
  fun _ _ moved => pure_ok_iff.2 ⟨rfl, Cursor.over_nil_iff.1 moved⟩

theorem Takes.bind {x : Reader α} {f : α → Reader β} {front back : Bytes} {a : α} {b : β}
    (first : x.Takes front a) (later : (f a).Takes back b) : (x >>= f).Takes (front ++ back) b := by
  intro c c' moved
  obtain ⟨c₁, head, tail⟩ := Cursor.over_append_iff.1 moved
  exact bind_ok_iff.2 ⟨a, c₁, first head, later tail⟩

/-- A read may end without taking any more. -/
theorem Takes.finish {x : Reader α} {f : α → Reader β} {bytes : Bytes} {a : α} {b : β}
    (first : x.Takes bytes a) (later : (f a).Takes [] b) : (x >>= f).Takes bytes b := by
  have both := first.bind later
  rwa [List.append_nil] at both

theorem takes_byte (b : UInt8) : byte.Takes [b] b :=
  fun _ _ => byte_ok_iff.2

theorem takes_word16 (w : UInt16) : word16.Takes (Bytes.le16 w) w :=
  fun _ _ => word16_ok_iff.2

theorem takes_word32 (w : UInt32) : word32.Takes (Bytes.le32 w) w :=
  fun _ _ => word32_ok_iff.2

theorem takes_raw {n : Nat} {bytes : Bytes} (h : bytes.length = n) : (raw n).Takes bytes bytes :=
  fun _ _ moved => raw_ok_iff.2 ⟨h, moved⟩

theorem takes_short {bytes : Bytes} (h : bytes.length ≤ 255) :
    short.Takes (UInt8.ofNat bytes.length :: bytes) bytes :=
  fun _ _ moved => short_ok_iff.2 ⟨h, moved⟩

theorem Takes.map {x : Reader α} {bytes : Bytes} {a : α} (h : x.Takes bytes a) (f : α → β) :
    (f <$> x).Takes bytes (f a) :=
  fun _ _ moved => map_ok_iff.2 ⟨a, h moved, rfl⟩

/-! ### Reads that fail -/

theorem map_error_iff {x : Reader α} {f : α → β} {c c' : Cursor} {cause : Truncated} :
    (f <$> x) c = .error cause c' ↔ x c = .error cause c' := by
  change EStateM.map f x c = _ ↔ _
  unfold EStateM.map
  cases x c <;> simp

theorem bind_error_iff {x : Reader α} {f : α → Reader β} {c c' : Cursor} {cause : Truncated} :
    (x >>= f) c = .error cause c' ↔
      x c = .error cause c' ∨ ∃ a c₁, x c = .ok a c₁ ∧ f a c₁ = .error cause c' := by
  change EStateM.bind x f c = _ ↔ _
  unfold EStateM.bind
  cases x c with
  | ok a c₁ => simp [and_assoc]
  | error cause c₁ => simp

/-- Whether a read takes `n` bytes or none: it fails just where fewer remain. -/
def Needs (x : Reader α) (n : Nat) : Prop :=
  ∀ ⦃c c' : Cursor⦄ ⦃cause : Truncated⦄,
    x c = .error cause c' ↔ c.remaining < n ∧ cause = ⟨n, c.remaining⟩ ∧ c' = c

theorem needs_raw (n : Nat) : (raw n).Needs n := by
  intro c c' cause
  unfold raw
  split
  case isTrue enough => simp [Nat.not_lt.2 enough]
  case isFalse few => simp [Nat.lt_of_not_le few, eq_comm]

theorem needs_byte : byte.Needs 1 := by
  rintro ⟨position, rest⟩ c' cause
  cases rest <;> simp [byte, Cursor.remaining, eq_comm]

theorem needs_word16 : word16.Needs 2 := by
  rintro ⟨position, rest⟩ c' cause
  match rest with
  | [] | [_] => simp [word16, Cursor.remaining, eq_comm]
  | _ :: _ :: _ => simp +arith [word16, Cursor.remaining]

theorem needs_word32 : word32.Needs 4 := by
  rintro ⟨position, rest⟩ c' cause
  match rest with
  | [] | [_] | [_, _] | [_, _, _] => simp [word32, Cursor.remaining, eq_comm]
  | _ :: _ :: _ :: _ :: _ => simp +arith [word32, Cursor.remaining]

theorem Needs.map {x : Reader α} {n : Nat} (h : x.Needs n) (f : α → β) : (f <$> x).Needs n :=
  fun _ _ _ => map_error_iff.trans (@h _ _ _)

/-- Of a short string the length byte is missing, or the bytes behind it are. -/
theorem short_error_iff {c c' : Cursor} {cause : Truncated} :
    short c = .error cause c' ↔
      (c.remaining < 1 ∧ cause = ⟨1, c.remaining⟩ ∧ c' = c) ∨
        ∃ length : UInt8, c.Over c' [length] ∧ c'.remaining < length.toNat ∧
          cause = ⟨length.toNat, c'.remaining⟩ := by
  rw [short, bind_error_iff, needs_byte]
  refine or_congr Iff.rfl ?_
  constructor
  · rintro ⟨length, c₁, head, failed⟩
    obtain ⟨few, rfl, rfl⟩ := (needs_raw length.toNat).1 failed
    exact ⟨length, byte_ok_iff.1 head, few, rfl⟩
  · rintro ⟨length, head, few, rfl⟩
    exact ⟨length, c', byte_ok_iff.2 head, (needs_raw _).2 ⟨few, rfl, rfl⟩⟩

/-- Whether a read fails only where it needs more bytes than remain. -/
def FailsShort (x : Reader α) : Prop :=
  ∀ ⦃c c' : Cursor⦄ ⦃cause : Truncated⦄, x c = .error cause c' → cause.remaining < cause.needed

theorem Needs.failsShort {x : Reader α} {n : Nat} (h : x.Needs n) : x.FailsShort := by
  intro c c' cause failed
  obtain ⟨few, rfl, -⟩ := h.1 failed
  exact few

theorem failsShort_pure (a : α) : (pure a : Reader α).FailsShort :=
  fun _ _ _ failed => nomatch failed

theorem FailsShort.bind {x : Reader α} {f : α → Reader β} (first : x.FailsShort)
    (later : ∀ a, (f a).FailsShort) : (x >>= f).FailsShort := by
  intro c c' cause failed
  rcases bind_error_iff.1 failed with failed | ⟨a, c₁, -, failed⟩
  · exact first failed
  · exact later a failed

theorem failsShort_raw (n : Nat) : (raw n).FailsShort :=
  (needs_raw n).failsShort

theorem failsShort_byte : byte.FailsShort :=
  needs_byte.failsShort

theorem failsShort_word32 : word32.FailsShort :=
  needs_word32.failsShort

theorem failsShort_short : short.FailsShort :=
  failsShort_byte.bind fun length => failsShort_raw length.toNat

end Reader

end Wire

end Attest
