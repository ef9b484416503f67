import Attest.Challenge
import Attest.Proofs.Schedule

/-!
# The layout of challenges

A challenge is built in two passes: the strings are collected from the secondary checks only, and
the entries then count the strings of all checks. The two agree because no primary check has a
string (`Challenge.texts_eq_nil`).

* `Challenge.entries_ok` : behind any strings, each entry describes its check, and an index that
  it holds is the place of the check's own string;
* `Challenge.ofSelection_ok`, `Challenge.ofSelection_error` : a challenge is built just if an index
  can tell its strings apart.
-/

namespace Attest

namespace Challenge

/-! ### Strings -/

/-- The string that a challenge carries for a check of a kind, if it carries one. -/
def text? (kind : Check.Kind) : Option Bytes :=
  kind.string?.map Bytes.ofString

/-- The strings of checks. -/
def texts (checks : List Check) : List Bytes :=
  checks.flatMap fun c => (text? c.kind).toList

@[simp] theorem texts_nil : texts [] = [] := rfl

@[simp] theorem texts_cons (c : Check) (rest : List Check) :
    texts (c :: rest) = (text? c.kind).toList ++ texts rest := rfl

theorem texts_append (a b : List Check) : texts (a ++ b) = texts a ++ texts b :=
  List.flatMap_append

theorem text?_of_primary {kind : Check.Kind} (h : kind.pool = .primary) : text? kind = none := by
  cases kind with
  | memory => rfl
  | module => rfl
  | _ => cases h

/-- Primary checks have no strings. -/
theorem texts_eq_nil {checks : List Check} (h : ∀ c ∈ checks, c.kind.pool = .primary) :
    texts checks = [] := by
  rw [texts, List.flatMap_eq_nil_iff]
  intro c hc
  rw [text?_of_primary (h c hc), Option.toList_none]

theorem length_texts (checks : List Check) :
    (texts checks).length = checks.countP (·.kind.string?.isSome) := by
  induction checks with
  | nil => rfl
  | cons c rest ih =>
    cases h : c.kind.string? with
    | none => simp [text?, h, ih]
    | some s =>
      simp [text?, h, ih, Nat.add_comm]

theorem length_texts_found_le (catalog : Catalog) (build : Build) (ids : List CheckId) :
    (texts (catalog.found build ids)).length ≤ ids.length := by
  rw [length_texts]
  exact Nat.le_trans List.countP_le_length (List.length_filterMap_le _ _)

theorem length_ofString (s : String) : (Bytes.ofString s).length = s.utf8ByteSize := rfl

theorem stringDefect?_of_defect? {kind : Check.Kind} {s : String} (sound : kind.defect? = none)
    (h : kind.string? = some s) : Check.stringDefect? s = none := by
  cases kind with
  | mpq | luaString =>
    obtain rfl := Option.some.inj h
    exact sound
  | driver =>
    obtain rfl := Option.some.inj h
    exact (Option.or_eq_none_iff.1 sound).2
  | _ => cases h

/-- The string of a check without a defect has a length byte, and not the one that ends the
strings. -/
theorem length_text_of_defect? {c : Check} {text : Bytes} (sound : c.defect? = none)
    (h : text? c.kind = some text) : 0 < text.length ∧ text.length ≤ 255 := by
  obtain ⟨s, carried, rfl⟩ := Option.map_eq_some_iff.1 h
  have fits := stringDefect?_of_defect? (Check.kindDefect?_of_defect? sound) carried
  unfold Check.stringDefect? at fits
  split at fits
  case isTrue => cases fits
  case isFalse ok =>
    rw [length_ofString]
    omega

variable {catalog : Catalog} {build : Build} {ids : List CheckId} {checks : List Check}

theorem strings_of_defined (defined : catalog.Defines build ids checks) :
    strings catalog build ids = .ok (texts checks) := by
  induction defined with
  | nil => rfl
  | cons here _ ih =>
    rw [strings, Catalog.require_of_get? here, ih]
    rfl

/-! ### Entries -/

/-- Whether an index is the place of a string, counted from one. -/
structure Names (table : List Bytes) (index : UInt8) (s : String) : Prop where
  pos : 0 < index.toNat
  place : table[index.toNat - 1]? = some (Bytes.ofString s)

/-- Whether an entry asks what a check of a kind asks, given the strings of the challenge. A module
is named by the HMAC of its name under SHA-1, whose key is the four bytes of the seed in the entry,
the lowest first; the seeds are the words that were drawn (`seeds_of_entries`). -/
inductive Entry.Describes (table : List Bytes) : Check.Kind → Entry → Prop
  | memory {address : UInt32} {length : UInt8} {expected : Bytes} :
      Describes table (.memory address length expected) (.memory address length)
  | pageA {pattern : Bytes} {address : UInt32} {length : UInt8} :
      Describes table (.pageA pattern address length) (.pageA pattern address length)
  | pageB {pattern : Bytes} {address : UInt32} {length : UInt8} :
      Describes table (.pageB pattern address length) (.pageB pattern address length)
  | mpq {path : String} {expected : Vector UInt8 20} {index : UInt8}
      (h : Names table index path) : Describes table (.mpq path expected) (.mpq index)
  | luaString {global : String} {index : UInt8} (h : Names table index global) :
      Describes table (.luaString global) (.luaString index)
  | driver {pattern : Bytes} {name : String} {index : UInt8} (h : Names table index name) :
      Describes table (.driver pattern name) (.driver pattern index)
  | module {name : String} {seed : UInt32} :
      Describes table (.module name)
        (.module seed (Hmac.digest (Bytes.le32 seed) (Bytes.ofString name)))

/-- The seed in an entry, if there is one. -/
def Entry.seed? : Entry → Option UInt32
  | .module seed _ => some seed
  | _ => none

theorem nextIndex?_names {before : List Bytes} (after : List Bytes) (s : String)
    (room : before.length < 255) :
    ∃ index, nextIndex? before.length = some index ∧
      Names (before ++ (Bytes.ofString s :: after)) index s := by
  have place : (UInt8.ofNat (before.length + 1)).toNat = before.length + 1 := by
    rw [UInt8.toNat_ofNat']
    exact Nat.mod_eq_of_lt (by omega)
  refine ⟨UInt8.ofNat (before.length + 1), if_pos room, ?_, ?_⟩
  · omega
  · rw [place, Nat.add_sub_cancel, List.getElem?_append_right (Nat.le_refl _), Nat.sub_self]
    rfl

theorem room_of_text {kind : Check.Kind} {before : List Bytes} {s : String}
    (h : kind.string? = some s) (room : (before ++ (text? kind).toList).length ≤ 255) :
    before.length < 255 := by
  simp only [text?, h, Option.map_some, Option.toList_some, List.length_append,
    List.length_singleton] at room
  omega

/-- As long as an index can tell the string of a check apart, there is an entry for the check, and
it counts just that string. -/
theorem entryOf?_describes {kind : Check.Kind} {before : List Bytes} (after : List Bytes)
    (seeds : SeedStream) (room : (before ++ (text? kind).toList).length ≤ 255) :
    ∃ e later, entryOf? kind before.length seeds =
        some (e, (before ++ (text? kind).toList).length, later) ∧
      Entry.Describes (before ++ ((text? kind).toList ++ after)) kind e := by
  cases kind with
  | memory => exact ⟨_, seeds, by simp [entryOf?, text?, Check.Kind.string?], .memory⟩
  | pageA => exact ⟨_, seeds, by simp [entryOf?, text?, Check.Kind.string?], .pageA⟩
  | pageB => exact ⟨_, seeds, by simp [entryOf?, text?, Check.Kind.string?], .pageB⟩
  | module =>
    exact ⟨.module seeds.next32.1 _, seeds.next32.2,
      by simp [entryOf?, moduleDigest, text?, Check.Kind.string?], .module⟩
  | mpq path expected =>
    obtain ⟨index, next, names⟩ := nextIndex?_names after path (room_of_text rfl room)
    exact ⟨.mpq index, seeds, by simp [entryOf?, next, text?, Check.Kind.string?], .mpq names⟩
  | luaString global =>
    obtain ⟨index, next, names⟩ := nextIndex?_names after global (room_of_text rfl room)
    exact ⟨.luaString index, seeds, by simp [entryOf?, next, text?, Check.Kind.string?],
      .luaString names⟩
  | driver pattern name =>
    obtain ⟨index, next, names⟩ := nextIndex?_names after name (room_of_text rfl room)
    exact ⟨.driver pattern index, seeds, by simp [entryOf?, next, text?, Check.Kind.string?],
      .driver names⟩

/-- The digest that names a module under a seed. -/
example : moduleDigest 0x01020304 (Bytes.ofString "kernel32.dll") =
    #v[0xEA, 0x35, 0x45, 0xF1, 0xDF, 0xA6, 0x4B, 0x6C, 0x06, 0x53, 0xDB, 0xD8, 0x1C, 0x38, 0xBD,
      0xA9, 0xC8, 0xFB, 0xB4, 0x3E] := by
  decide +kernel

/-- Behind as many strings as an index can tell apart there is no entry for another one. -/
theorem entryOf?_eq_none {kind : Check.Kind} {used : Nat} (seeds : SeedStream) {text : Bytes}
    (h : text? kind = some text) (full : 255 ≤ used) : entryOf? kind used seeds = none := by
  have last : nextIndex? used = none := if_neg (by omega)
  cases kind with
  | mpq | luaString | driver => simp [entryOf?, last]
  | _ => cases h

/-- As long as indices can tell all strings apart, there is an entry for each check, which
describes it. -/
theorem entries_ok (defined : catalog.Defines build ids checks) (before : List Bytes)
    (seeds : SeedStream) (room : (before ++ texts checks).length ≤ 255) :
    ∃ es later, entries catalog build ids before.length seeds = (.ok es, later) ∧
      List.Forall₂ (fun c e => Entry.Describes (before ++ texts checks) c.kind e) checks es := by
  -- the strings laid out so far move into `before`, so that the whole table stays the same
  induction defined generalizing before seeds with
  | nil => exact ⟨[], seeds, rfl, .nil⟩
  | @cons id c ids checks here _ ih =>
    rw [texts_cons, ← List.append_assoc] at room
    have first : (before ++ (text? c.kind).toList).length ≤ 255 := by
      rw [List.length_append] at room
      omega
    obtain ⟨e, middle, entry, describes⟩ := entryOf?_describes (texts checks) seeds first
    obtain ⟨es, later, more, rest⟩ := ih (before ++ (text? c.kind).toList) middle room
    rw [List.append_assoc] at rest
    refine ⟨e :: es, later, ?_, .cons describes rest⟩
    simp only [entries, Catalog.require_of_get? here, entry, more]
    rfl

/-- If indices cannot tell all strings apart, the building ends at the first check whose string
has none. -/
theorem entries_error (defined : catalog.Defines build ids checks) (before : List Bytes)
    (seeds : SeedStream) (start : before.length ≤ 255)
    (full : 255 < (before ++ texts checks).length) :
    ∃ later, entries catalog build ids before.length seeds =
      (.error (.config .tooManyStrings), later) := by
  induction defined generalizing before seeds with
  | nil =>
    rw [texts_nil, List.append_nil] at full
    omega
  | @cons id c ids checks here _ ih =>
    rw [texts_cons, ← List.append_assoc] at full
    simp only [entries, Catalog.require_of_get? here]
    by_cases first : (before ++ (text? c.kind).toList).length ≤ 255
    · obtain ⟨e, middle, entry, -⟩ := entryOf?_describes (texts checks) seeds first
      obtain ⟨later, more⟩ := ih (before ++ (text? c.kind).toList) middle first full
      simp only [entry, more]
      exact ⟨later, rfl⟩
    · cases h : text? c.kind with
      -- a check without a string leaves the count where it was
      | none => simp [h, start] at first
      | some text =>
        have last : 255 ≤ before.length := by
          simp [h] at first
          omega
        rw [entryOf?_eq_none seeds h last]
        exact ⟨seeds, rfl⟩

/-! ### Seeds -/

/-- An entry draws one word and shows it, or draws none. -/
theorem entryOf?_seed {kind : Check.Kind} {used used' : Nat} {seeds later : SeedStream} {e : Entry}
    (entry : entryOf? kind used seeds = some (e, used', later)) :
    e.seed? = some (seeds.ahead 0) ∧ later = seeds.skip 1 ∨ e.seed? = none ∧ later = seeds := by
  cases kind with
  | memory | pageA | pageB =>
    cases entry
    exact .inr ⟨rfl, rfl⟩
  | module =>
    cases entry
    exact .inl ⟨rfl, rfl⟩
  | mpq | luaString | driver =>
    obtain ⟨index, -, same⟩ := Option.map_eq_some_iff.1 entry
    cases same
    exact .inr ⟨rfl, rfl⟩

/-- The seeds in the entries are the next words of the stream, in order. -/
theorem seeds_of_entries {used : Nat} {seeds later : SeedStream} {es : List Entry}
    (built : entries catalog build ids used seeds = (.ok es, later)) :
    es.filterMap Entry.seed? = seeds.words (es.filterMap Entry.seed?).length := by
  induction ids generalizing used seeds es with
  | nil =>
    cases built
    rfl
  | cons id rest ih =>
    rw [entries] at built
    split at built
    case h_1 => cases built
    case h_2 =>
      split at built
      case h_1 => cases built
      case h_2 e used' middle entry =>
        rcases more : entries catalog build rest used' middle with ⟨fault | es', later'⟩
        · rw [more] at built
          cases built
        · rw [more] at built
          cases built
          have behind := ih more
          rcases entryOf?_seed entry with ⟨seed, rfl⟩ | ⟨none, rfl⟩
          · rw [List.filterMap_cons_some seed, List.length_cons, SeedStream.words_succ, ← behind]
          · rw [List.filterMap_cons_none none]
            exact behind

/-! ### Challenges -/

/-- The strings of a selection are those of its secondary checks. -/
theorem texts_secondary {selection : Selection} (well : selection.Of catalog build) :
    texts (catalog.found build selection.secondary) =
      texts (catalog.found build selection.inFlight) := by
  rw [Selection.inFlight, Catalog.found_append, texts_append,
    texts_eq_nil (Catalog.pool_of_mem_found well.primary), List.nil_append]

/-- A selection has no more strings than secondary checks. -/
theorem length_texts_le {selection : Selection} (well : selection.Of catalog build) :
    (texts (catalog.found build selection.inFlight)).length ≤ selection.secondary.length := by
  rw [← texts_secondary well]
  exact length_texts_found_le catalog build selection.secondary

theorem strings_secondary {selection : Selection} (well : selection.Of catalog build) :
    strings catalog build selection.secondary =
      .ok (texts (catalog.found build selection.inFlight)) := by
  have defined : catalog.Defines build selection.secondary
      (catalog.found build selection.secondary) :=
    Catalog.defines_found fun id hid => Catalog.isSome_of_mem_poolIds (well.secondary id hid)
  rw [strings_of_defined defined, texts_secondary well]

theorem ofSelection_of_entries {selection : Selection} (well : selection.Of catalog build)
    (mask : UInt8) {seeds later : SeedStream} {es : List Entry}
    (built : entries catalog build selection.inFlight 0 seeds = (.ok es, later)) :
    ofSelection catalog build selection mask seeds =
      (.ok ⟨Request.payload mask ⟨texts (catalog.found build selection.inFlight), es⟩,
        selection.inFlight⟩, later) := by
  simp only [ofSelection, request, strings_secondary well, built]
  rfl

/-- A selection whose strings indices can tell apart has a challenge, with an entry for each
check. -/
theorem ofSelection_ok {selection : Selection} (well : selection.Of catalog build) (mask : UInt8)
    (seeds : SeedStream)
    (room : (texts (catalog.found build selection.inFlight)).length ≤ 255) :
    ∃ es later, ofSelection catalog build selection mask seeds =
        (.ok ⟨Request.payload mask ⟨texts (catalog.found build selection.inFlight), es⟩,
          selection.inFlight⟩, later) ∧
      List.Forall₂
        (fun c e => Entry.Describes (texts (catalog.found build selection.inFlight)) c.kind e)
        (catalog.found build selection.inFlight) es := by
  obtain ⟨es, later, built, describes⟩ := entries_ok well.defined [] seeds room
  exact ⟨es, later, ofSelection_of_entries well mask built, describes⟩

/-- A selection with more strings than indices can tell apart has none. -/
theorem ofSelection_error {selection : Selection} (well : selection.Of catalog build)
    (mask : UInt8) (seeds : SeedStream)
    (full : 255 < (texts (catalog.found build selection.inFlight)).length) :
    ∃ later, ofSelection catalog build selection mask seeds =
      (.error (.config .tooManyStrings), later) := by
  obtain ⟨later, broken⟩ := entries_error well.defined [] seeds (by simp) full
  refine ⟨later, ?_⟩
  rw [List.length_nil] at broken
  simp only [ofSelection, request, strings_secondary well, broken]
  rfl

/-- What is known of a challenge that was built. -/
theorem ofSelection_of_ok {selection : Selection} (well : selection.Of catalog build)
    {mask : UInt8} {seeds later : SeedStream} {c : Challenge}
    (built : ofSelection catalog build selection mask seeds = (.ok c, later)) :
    (texts (catalog.found build selection.inFlight)).length ≤ 255 ∧
      ∃ es, c = ⟨Request.payload mask ⟨texts (catalog.found build selection.inFlight), es⟩,
          selection.inFlight⟩ ∧
        List.Forall₂
          (fun c e => Entry.Describes (texts (catalog.found build selection.inFlight)) c.kind e)
          (catalog.found build selection.inFlight) es ∧
        entries catalog build selection.inFlight 0 seeds = (.ok es, later) := by
  by_cases room : (texts (catalog.found build selection.inFlight)).length ≤ 255
  · obtain ⟨es, later', made, describes⟩ := entries_ok well.defined [] seeds room
    rw [ofSelection_of_entries well mask made, Prod.mk.injEq, Except.ok.injEq] at built
    obtain ⟨rfl, rfl⟩ := built
    exact ⟨room, es, rfl, describes, made⟩
  · obtain ⟨later', broken⟩ := ofSelection_error well mask seeds (by omega)
    rw [built] at broken
    cases broken

end Challenge

end Attest
