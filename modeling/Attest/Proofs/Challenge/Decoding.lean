import Attest.Proofs.Challenge.Layout
import Attest.Proofs.Wire.Reading

/-!
# Reading a challenge back

`Challenge.decode?` is the client's side of a challenge. Of the checks it knows only how long the
pattern of each is, as no length stands in front of a pattern; all else it takes from the payload
and the mask. The opcode and the tags are numbers that it knows by itself.
`Challenge.decode?_ofSelection` says that it reads each challenge back to its last byte, and that
the place in every entry is that of the string of just that check.

A decoder is described by the bytes that it takes (`Decoder.Reads`), and decoders in a row take
the bytes of one after the other (`Decoder.Reads.bind`).
-/

namespace Attest

namespace Check.Kind

/-- How many bytes of pattern a challenge holds for a check of the kind. -/
def patternLength : Kind → Nat
  | pageA pattern _ _ => pattern.length
  | pageB pattern _ _ => pattern.length
  | driver pattern _ => pattern.length
  | _ => 0

end Check.Kind

namespace Challenge

open Wire (Cursor Field Reader Tag)

/-! ### The decoder -/

/-- What a client reads from the front of a byte string, if it can. -/
abbrev Decoder (α : Type) := StateT Bytes Option α

namespace Decoder

/-- Takes a value as a reader of messages does. -/
def ofReader {α : Type} (r : Reader α) : Decoder α := fun bytes =>
  match r (Cursor.start bytes) with
  | .ok a c => some (a, c.rest)
  | .error _ _ => none

/-- Takes this byte and no other. -/
def expect (b : UInt8) : Decoder Unit := do
  let found ← ofReader Reader.byte
  if found = b then return () else failure

/-- Takes strings up to the first that is empty, and less than `n` of them. -/
def stringsWithin : Nat → Decoder (List Bytes)
  | 0 => failure
  | n + 1 => do
    let s ← ofReader Reader.short
    if s = [] then return []
    else
      let more ← stringsWithin n
      return s :: more

/-- Takes strings up to the first that is empty. -/
def strings : Decoder (List Bytes) := fun bytes => stringsWithin bytes.length bytes

/-- The tag of a byte, as clients know it. -/
def tagOf? (b : UInt8) : Option Tag :=
  if b = 0xF3 then some .memory
  else if b = 0xB2 then some .pageA
  else if b = 0xBF then some .pageB
  else if b = 0x98 then some .mpq
  else if b = 0x8B then some .luaString
  else if b = 0x71 then some .driver
  else if b = 0x57 then some .timing
  else if b = 0xD9 then some .module
  else none

/-- Takes a masked tag. -/
def tag (mask : UInt8) : Decoder Tag := do
  let found ← ofReader Reader.byte
  match tagOf? (found ^^^ mask) with
  | some t => return t
  | none => failure

/-- Takes what stands behind a tag; a pattern is as long as `width`. -/
def body (width : Nat) : Tag → Decoder Entry
  | .memory => do
    expect 0
    let address ← ofReader Reader.word32
    let length ← ofReader Reader.byte
    return .memory address length
  | .pageA => do
    let pattern ← ofReader (Reader.raw width)
    let address ← ofReader Reader.word32
    let length ← ofReader Reader.byte
    return .pageA pattern address length
  | .pageB => do
    let pattern ← ofReader (Reader.raw width)
    let address ← ofReader Reader.word32
    let length ← ofReader Reader.byte
    return .pageB pattern address length
  | .mpq => do
    let index ← ofReader Reader.byte
    return .mpq index
  | .luaString => do
    let index ← ofReader Reader.byte
    return .luaString index
  | .driver => do
    let pattern ← ofReader (Reader.raw width)
    let index ← ofReader Reader.byte
    return .driver pattern index
  | .module => do
    let seed ← ofReader Reader.word32
    let digest ← ofReader (Reader.raw 20)
    match Bytes.toVector? 20 digest with
    | some digest => return .module seed digest
    | none => failure
  | .timing => failure

/-- Takes an entry for each width. -/
def entries (mask : UInt8) : List Nat → Decoder (List Entry)
  | [] => return []
  | width :: rest => do
    let t ← tag mask
    let e ← body width t
    let more ← entries mask rest
    return e :: more

/-- Takes a challenge: the opcode, the strings, the masked tag of the timing probe, the entries and
the mask. -/
def request (mask : UInt8) (widths : List Nat) : Decoder Request := do
  expect 2
  let strings ← strings
  expect (0x57 ^^^ mask)
  let entries ← entries mask widths
  expect mask
  return ⟨strings, entries⟩

end Decoder

/-- The content of a challenge for checks with patterns of these lengths, if all of the payload
is one. -/
def decode? (mask : UInt8) (widths : List Nat) (payload : Bytes) : Option Request :=
  match Decoder.request mask widths payload with
  | some (r, []) => some r
  | _ => none

/-! ### What a decoder takes -/

namespace Decoder

variable {α β : Type}

/-- Whether a decoder takes these bytes for this value, whatever follows them. -/
def Reads (d : Decoder α) (bytes : Bytes) (a : α) : Prop :=
  ∀ rest, d (bytes ++ rest) = some (a, rest)

theorem reads_pure (a : α) : Reads (pure a) [] a := fun _ => rfl

theorem Reads.bind {d : Decoder α} {f : α → Decoder β} {x y : Bytes} {a : α} {b : β}
    (h : Reads d x a) (h' : Reads (f a) y b) : Reads (d >>= f) (x ++ y) b := by
  intro rest
  change (d (x ++ y ++ rest)).bind (fun p => f p.1 p.2) = some (b, rest)
  rw [List.append_assoc, h, Option.bind_some, h']

/-- A decoder may end without taking any more. -/
theorem Reads.finish {d : Decoder α} {f : α → Decoder β} {x : Bytes} {a : α} {b : β}
    (h : Reads d x a) (h' : Reads (f a) [] b) : Reads (d >>= f) x b := by
  have both := h.bind h'
  rwa [List.append_nil] at both

theorem reads_ofReader {r : Reader α} {bytes : Bytes} {a : α}
    (h : ∀ {c c' : Cursor}, c.Over c' bytes → r c = .ok a c') : Reads (ofReader r) bytes a := by
  intro rest
  have moved : (Cursor.start (bytes ++ rest)).Over ⟨0 + bytes.length, rest⟩ bytes := ⟨rfl, rfl⟩
  rw [ofReader, h moved]

theorem reads_byte (b : UInt8) : Reads (ofReader Reader.byte) [b] b :=
  reads_ofReader Reader.byte_ok_iff.2

theorem reads_word32 (w : UInt32) : Reads (ofReader Reader.word32) (Bytes.le32 w) w :=
  reads_ofReader Reader.word32_ok_iff.2

theorem reads_raw (bytes : Bytes) : Reads (ofReader (Reader.raw bytes.length)) bytes bytes :=
  reads_ofReader fun moved => Reader.raw_ok_iff.2 ⟨rfl, moved⟩

theorem reads_short {bytes : Bytes} (h : bytes.length ≤ 255) :
    Reads (ofReader Reader.short) (UInt8.ofNat bytes.length :: bytes) bytes :=
  reads_ofReader fun moved => Reader.short_ok_iff.2 ⟨h, moved⟩

theorem reads_expect (b : UInt8) : Reads (expect b) [b] () := by
  refine (reads_byte b).finish ?_
  rw [if_pos rfl]
  exact reads_pure ()

theorem tagOf?_byte (t : Tag) : tagOf? t.byte = some t := by
  cases t <;> decide

theorem reads_tag (mask : UInt8) (t : Tag) : Reads (tag mask) [t.masked mask] t := by
  have found : tagOf? (t.masked mask ^^^ mask) = some t := by
    rw [Tag.masked, UInt8.xor_assoc, UInt8.xor_self, UInt8.xor_zero, tagOf?_byte]
  refine (reads_byte (t.masked mask)).finish ?_
  rw [found]
  exact reads_pure t

theorem fitting_eq {text : Bytes} (h : text.length ≤ 255) : Field.fitting text = text :=
  List.take_of_length_le h

/-- The strings of a challenge are taken up to the empty one that ends them. -/
theorem reads_stringsWithin {table : List Bytes} {n : Nat} (h : table.length < n)
    (fits : ∀ text ∈ table, 0 < text.length ∧ text.length ≤ 255) :
    Reads (stringsWithin n) (Field.encodeAll (table.map .short) ++ [Wire.stringsEnd]) table := by
  induction table generalizing n with
  | nil =>
    -- the empty string read here is the one that ends the table
    obtain ⟨n, rfl⟩ := Nat.exists_eq_succ_of_ne_zero (by omega : n ≠ 0)
    have last : Reads (ofReader Reader.short) [Wire.stringsEnd] [] :=
      @reads_short [] (Nat.zero_le 255)
    refine last.finish ?_
    rw [if_pos rfl]
    exact reads_pure []
  | cons text rest ih =>
    obtain ⟨n, rfl⟩ := Nat.exists_eq_succ_of_ne_zero (by omega : n ≠ 0)
    obtain ⟨nonempty, bound⟩ := fits text List.mem_cons_self
    have more := ih (n := n) (by simpa using h) fun t ht => fits t (List.mem_cons_of_mem _ ht)
    have split : Field.encodeAll ((text :: rest).map .short) ++ [Wire.stringsEnd] =
        (UInt8.ofNat text.length :: text) ++
          (Field.encodeAll (rest.map .short) ++ [Wire.stringsEnd]) := by
      simp [Field.encode, fitting_eq bound]
    rw [split]
    refine (reads_short bound).bind ?_
    rw [if_neg (List.ne_nil_of_length_pos nonempty)]
    exact more.finish (reads_pure _)

theorem length_lt_encodeAll (table : List Bytes) (rest : Bytes) :
    table.length < (Field.encodeAll (table.map .short) ++ [Wire.stringsEnd] ++ rest).length := by
  induction table with
  | nil => simp
  | cons text more ih =>
    simp only [List.map_cons, Field.encodeAll_cons, Field.encode, List.cons_append,
      List.append_assoc, List.length_cons, List.length_append] at ih ⊢
    omega

theorem reads_strings {table : List Bytes}
    (fits : ∀ text ∈ table, 0 < text.length ∧ text.length ≤ 255) :
    Reads strings (Field.encodeAll (table.map .short) ++ [Wire.stringsEnd]) table :=
  fun rest => reads_stringsWithin (length_lt_encodeAll table rest) fits rest

theorem toVector?_toList {n : Nat} (v : Vector UInt8 n) :
    Bytes.toVector? n v.toList = some v := by
  obtain ⟨a, rfl⟩ := v
  simp [Bytes.toVector?]

/-- Of an entry is taken what describes the check, once its tag is known. -/
theorem reads_body {table : List Bytes} {kind : Check.Kind} {e : Entry}
    (h : e.Describes table kind) :
    Reads (body kind.patternLength e.tag) (Field.encodeAll e.fields) e := by
  cases h with
  | memory =>
    refine (reads_expect _).bind ?_
    refine (reads_word32 _).bind ?_
    exact (reads_byte _).finish (reads_pure _)
  | pageA | pageB =>
    refine (reads_raw _).bind ?_
    refine (reads_word32 _).bind ?_
    exact (reads_byte _).finish (reads_pure _)
  | mpq | luaString => exact (reads_byte _).finish (reads_pure _)
  | driver =>
    refine (reads_raw _).bind ?_
    exact (reads_byte _).finish (reads_pure _)
  | @module name seed =>
    refine (reads_word32 _).bind ?_
    have digest : Reads (ofReader (Reader.raw 20))
        (Field.encodeAll [.raw (Hmac.digest (Bytes.le32 seed) (Bytes.ofString name)).toList])
        (Hmac.digest (Bytes.le32 seed) (Bytes.ofString name)).toList := by
      have raw := reads_raw (Hmac.digest (Bytes.le32 seed) (Bytes.ofString name)).toList
      rwa [Vector.length_toList] at raw
    refine digest.finish ?_
    rw [toVector?_toList]
    exact reads_pure _

/-- The entries of a challenge are taken by a decoder that knows the pattern lengths. -/
theorem reads_entries {table : List Bytes} {checks : List Check} {es : List Entry}
    (mask : UInt8)
    (h : List.Forall₂ (fun c e => Entry.Describes table c.kind e) checks es) :
    Reads (entries mask (checks.map (·.kind.patternLength)))
      (Field.encodeAll (es.flatMap (Entry.maskedFields mask))) es := by
  induction h with
  | nil => exact reads_pure []
  | @cons c e checks es describes _ ih =>
    have split : Field.encodeAll ((e :: es).flatMap (Entry.maskedFields mask)) =
        [e.tag.masked mask] ++ (Field.encodeAll e.fields ++
          Field.encodeAll (es.flatMap (Entry.maskedFields mask))) := by
      simp [Entry.maskedFields, Field.encode]
    rw [split]
    refine (reads_tag mask e.tag).bind ?_
    refine (reads_body describes).bind ?_
    exact ih.finish (reads_pure _)

theorem reads_request {table : List Bytes} {checks : List Check} {es : List Entry}
    (mask : UInt8) (fits : ∀ text ∈ table, 0 < text.length ∧ text.length ≤ 255)
    (h : List.Forall₂ (fun c e => Entry.Describes table c.kind e) checks es) :
    Reads (request mask (checks.map (·.kind.patternLength)))
      (Request.payload mask ⟨table, es⟩) ⟨table, es⟩ := by
  have split : Request.payload mask ⟨table, es⟩ =
      [Wire.ServerOpcode.checksRequest.byte] ++
        ((Field.encodeAll (table.map .short) ++ [Wire.stringsEnd]) ++
          ([Tag.timing.masked mask] ++
            (Field.encodeAll (es.flatMap (Entry.maskedFields mask)) ++ [mask]))) := by
    simp [Request.payload, Request.fields, Field.encode]
  rw [split]
  refine (reads_expect _).bind ?_
  refine (reads_strings fits).bind ?_
  refine (reads_expect _).bind ?_
  refine (reads_entries mask h).bind ?_
  exact (reads_expect mask).finish (reads_pure _)

end Decoder

theorem decode?_payload {table : List Bytes} {checks : List Check} {es : List Entry}
    (mask : UInt8) (fits : ∀ text ∈ table, 0 < text.length ∧ text.length ≤ 255)
    (h : List.Forall₂ (fun c e => Entry.Describes table c.kind e) checks es) :
    decode? mask (checks.map (·.kind.patternLength)) (Request.payload mask ⟨table, es⟩) =
      some ⟨table, es⟩ := by
  have whole := Decoder.reads_request mask fits h []
  rw [List.append_nil] at whole
  rw [decode?, whole]

theorem text_fits {catalog : Catalog} {build : Build} {ids : List CheckId} {checks : List Check}
    (defined : catalog.Defines build ids checks) :
    ∀ text ∈ texts checks, 0 < text.length ∧ text.length ≤ 255 := by
  intro text ht
  obtain ⟨c, hc, carried⟩ := List.mem_flatMap.1 ht
  exact length_text_of_defect? (defined.defect? c hc) (Option.mem_toList.1 carried)

/-- Whether a client reads from a payload what the checks of these ids ask, and nothing else. -/
structure Asks (catalog : Catalog) (build : Build) (mask : UInt8) (ids : List CheckId)
    (payload : Bytes) : Prop where
  defined : catalog.Defines build ids (catalog.found build ids)
  read : ∃ request, decode? mask ((catalog.found build ids).map (·.kind.patternLength)) payload =
      some request ∧
    List.Forall₂ (fun c e => Entry.Describes request.strings c.kind e) (catalog.found build ids)
      request.entries

theorem asks_of_ok {catalog : Catalog} {build : Build} {selection : Selection}
    (well : selection.Of catalog build) {mask : UInt8} {seeds later : SeedStream} {c : Challenge}
    (built : ofSelection catalog build selection mask seeds = (.ok c, later)) :
    Asks catalog build mask c.inFlight c.payload := by
  obtain ⟨-, es, rfl, describes, -⟩ := ofSelection_of_ok well built
  have decoded := decode?_payload mask (text_fits well.defined) describes
  exact ⟨well.defined, _, decoded, describes⟩

/-- **A client reads each challenge back.** A selection that draws each check from its own pool
has a challenge just if at most 255 of its checks have a string. A client that knows the mask and
the pattern lengths then takes from the payload the strings of the secondary checks, as drawn and
each in full, and an entry for each check in flight, which asks what the check asks: an index in
it is the place of the check's own string, and the seeds in them are the next words of the stream.
Nothing is left over. -/
theorem decode?_ofSelection {catalog : Catalog} {build : Build} {selection : Selection}
    (well : selection.Of catalog build) (mask : UInt8) (seeds : SeedStream) :
    ∃ checks, catalog.Defines build selection.inFlight checks ∧
      ((∃ c later, ofSelection catalog build selection mask seeds = (.ok c, later)) ↔
        checks.countP (·.kind.string?.isSome) ≤ 255) ∧
      ∀ c later, ofSelection catalog build selection mask seeds = (.ok c, later) →
        c.inFlight = selection.inFlight ∧
        ∃ es, decode? mask (checks.map (·.kind.patternLength)) c.payload =
            some ⟨texts (catalog.found build selection.secondary), es⟩ ∧
          List.Forall₂
            (fun check e =>
              Entry.Describes (texts (catalog.found build selection.secondary)) check.kind e)
            checks es ∧
          es.filterMap Entry.seed? = seeds.words (es.filterMap Entry.seed?).length := by
  refine ⟨catalog.found build selection.inFlight, well.defined, ?_, ?_⟩
  · rw [← length_texts]
    constructor
    · rintro ⟨c, later, built⟩
      exact (ofSelection_of_ok well built).1
    · intro room
      obtain ⟨es, later, built, -⟩ := ofSelection_ok well mask seeds room
      exact ⟨_, later, built⟩
  · intro c later built
    obtain ⟨-, es, rfl, describes, made⟩ := ofSelection_of_ok well built
    rw [texts_secondary well]
    exact ⟨rfl, es, decode?_payload mask (text_fits well.defined) describes, describes,
      seeds_of_entries made⟩

theorem sample_challenge_decoded :
    ∃ c later, ofSelection Catalog.sample 5875 ⟨[7, 1], [5, 2, 5]⟩ 0x3C (SeedStream.ofSeed 1) =
        (.ok c, later) ∧
      c.inFlight = [7, 1, 5, 2, 5] ∧
      ∃ es, decode? 0x3C [0, 0, 0, 3, 0] c.payload =
        some ⟨[Bytes.ofString "UnitName", Bytes.ofString "UnitName"], es⟩ := by
  have well : Selection.Of Catalog.sample 5875 ⟨[7, 1], [5, 2, 5]⟩ := by
    constructor
    · rw [List.forall_mem_cons, List.forall_mem_singleton]
      decide
    · rw [List.forall_mem_cons, List.forall_mem_cons, List.forall_mem_singleton]
      decide
  obtain ⟨checks, defined, builds, decodes⟩ :=
    decode?_ofSelection well 0x3C (SeedStream.ofSeed 1)
  obtain rfl := defined.eq_found
  obtain ⟨c, later, built⟩ := builds.2 (by decide)
  obtain ⟨inFlight, es, decoded, -⟩ := decodes c later built
  exact ⟨c, later, built, inFlight, es, decoded⟩

end Challenge

end Attest
