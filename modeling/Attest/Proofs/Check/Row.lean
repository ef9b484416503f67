import Attest.Catalog
import Attest.Proofs.Bytes.Hex
import Mathlib.Data.List.Forall2

/-!
# Rows and checks

A row describes a check if its kind has the name of the check's kind and the columns that this kind
uses hold the parameters (`Check.Row.Holds`); reading a row finds just this
(`Check.Row.toCheck_ok_iff`). From it follow

* `Check.Row.exists_holds_iff` : a row describes some check just if it is complete, and
* `Check.Row.Writes.toCheck` : what was written as a row, in letters of either case, is read back.

`Check.Row.rows_describe_checks` puts them together, and lifts them to lists of rows.
-/

namespace Attest

namespace Check

namespace Row

/-! ### Columns -/

/-- The columns that some kinds use and others do not. -/
inductive Column where
  | data
  | address
  | length
  | str
  | result
  deriving DecidableEq

/-- The names of the kinds. -/
def kindNames : List String :=
  ["memory", "page_a", "page_b", "mpq", "lua_string", "driver", "module"]

/-- The columns that the kind of a name uses. -/
def columns : String → List Column
  | "memory" => [.address, .length, .result]
  | "page_a" => [.data, .address, .length]
  | "page_b" => [.data, .address, .length]
  | "mpq" => [.str, .result]
  | "lua_string" => [.str]
  | "driver" => [.data, .str]
  | "module" => [.str]
  | _ => []

/-- Whether the text in a column spells a byte string. -/
def Spells (text? : Option String) (b : Bytes) : Prop :=
  ∃ text, text? = some text ∧ Hex.decode text = .ok b

/-- Whether a column is filled, and with hexadecimal text if bytes stand in it. -/
def Fills (row : Row) : Column → Prop
  | .data => ∃ b, Spells row.data b
  | .address => ∃ address, row.address = some address
  | .length => ∃ length, row.length = some length
  | .str => ∃ str, row.str = some str
  | .result => ∃ b, Spells row.result b

/-- Whether a row has all that its kind uses. -/
structure Complete (row : Row) : Prop where
  /-- The kind is one of the seven. -/
  known : row.kind ∈ kindNames
  filled : ∀ column ∈ columns row.kind, row.Fills column
  /-- The digest of an archive file has twenty bytes. -/
  digest : row.kind = "mpq" → ∀ b, Spells row.result b → b.length = 20

/-- Whether two rows have the same in a column. -/
def Agree (row other : Row) : Column → Prop
  | .data => row.data = other.data
  | .address => row.address = other.address
  | .length => row.length = other.length
  | .str => row.str = other.str
  | .result => row.result = other.result

/-- Whether two rows differ in columns only that their kind does not use. -/
structure SameUsed (row other : Row) : Prop where
  id : row.id = other.id
  build : row.build = other.build
  kind : row.kind = other.kind
  comment : row.comment = other.comment
  used : ∀ column ∈ columns row.kind, row.Agree other column

/-! ### Reading -/

/-- Whether a row asks this: its kind is named, and the columns of the kind hold the parameters. -/
inductive Holds (row : Row) : Kind → Prop
  | memory {address length expected} (named : row.kind = "memory")
      (hasAddress : row.address = some address) (hasLength : row.length = some length)
      (hasResult : Spells row.result expected) : Holds row (.memory address length expected)
  | pageA {pattern address length} (named : row.kind = "page_a") (hasData : Spells row.data pattern)
      (hasAddress : row.address = some address) (hasLength : row.length = some length) :
      Holds row (.pageA pattern address length)
  | pageB {pattern address length} (named : row.kind = "page_b") (hasData : Spells row.data pattern)
      (hasAddress : row.address = some address) (hasLength : row.length = some length) :
      Holds row (.pageB pattern address length)
  | mpq {path} {expected : Vector UInt8 20} (named : row.kind = "mpq")
      (hasResult : Spells row.result expected.toList) (hasText : row.str = some path) :
      Holds row (.mpq path expected)
  | luaString {global} (named : row.kind = "lua_string") (hasText : row.str = some global) :
      Holds row (.luaString global)
  | driver {pattern name} (named : row.kind = "driver") (hasData : Spells row.data pattern)
      (hasText : row.str = some name) : Holds row (.driver pattern name)
  | module {name} (named : row.kind = "module") (hasText : row.str = some name) :
      Holds row (.module name)

variable {row : Row} {α β : Type}

/-- Steps in a row succeed if each does. -/
theorem bind_ok_iff {ε : Type} {x : Except ε α} {f : α → Except ε β} {b : β} :
    (x >>= f) = .ok b ↔ ∃ a, x = .ok a ∧ f a = .ok b := by
  cases x with
  | error e => exact ⟨nofun, fun ⟨_, h, _⟩ => nomatch h⟩
  | ok a => exact ⟨fun h => ⟨a, rfl, h⟩, fun ⟨_, h, h'⟩ => by cases h; exact h'⟩

theorem need_ok_iff {column : String} {value? : Option α} {value : α} :
    row.need column value? = .ok value ↔ value? = some value := by
  cases value? with
  | none => exact ⟨nofun, nofun⟩
  | some v => rw [need, Except.ok.injEq, Option.some.injEq]

theorem needHex_ok_iff {column : String} {text? : Option String} {b : Bytes} :
    row.needHex column text? = .ok b ↔ Spells text? b := by
  cases text? with
  | none => exact ⟨nofun, fun ⟨_, h, _⟩ => nomatch h⟩
  | some text =>
    have spelled : Spells (some text) b ↔ Hex.decode text = .ok b :=
      ⟨fun ⟨_, h, h'⟩ => by cases h; exact h', fun h => ⟨text, rfl, h⟩⟩
    rw [spelled, needHex]
    cases Hex.decode text with
    | error cause => exact ⟨nofun, nofun⟩
    | ok found => rw [Except.mapError, Except.ok.injEq, Except.ok.injEq]

theorem needDigest_ok_iff {b : Bytes} {digest : Vector UInt8 20} :
    needDigest b = .ok digest ↔ b = digest.toList := by
  unfold needDigest Bytes.toVector?
  split
  case h_1 found same =>
    split at same
    · cases same
      rw [Except.ok.injEq, ← Vector.toList_inj]
      rfl
    · cases same
  case h_2 absent =>
    refine ⟨nofun, fun same => ?_⟩
    rw [dif_pos (by rw [same, Vector.length_toList])] at absent
    cases absent

/-- Reading a row finds what it asks. -/
theorem toKind_ok_iff {kind : Kind} : row.toKind = .ok kind ↔ row.Holds kind := by
  constructor
  · intro read
    unfold toKind at read
    split at read
    case h_8 => cases read
    all_goals simp only [bind_ok_iff, need_ok_iff, needHex_ok_iff, needDigest_ok_iff] at read
    case h_1 named =>
      obtain ⟨address, hasAddress, length, hasLength, expected, hasResult, read⟩ := read
      cases read
      exact .memory named hasAddress hasLength hasResult
    case h_2 named =>
      obtain ⟨pattern, hasData, address, hasAddress, length, hasLength, read⟩ := read
      cases read
      exact .pageA named hasData hasAddress hasLength
    case h_3 named =>
      obtain ⟨pattern, hasData, address, hasAddress, length, hasLength, read⟩ := read
      cases read
      exact .pageB named hasData hasAddress hasLength
    case h_4 named =>
      obtain ⟨expected, hasResult, path, hasText, digest, rfl, read⟩ := read
      cases read
      exact .mpq named hasResult hasText
    case h_5 named =>
      obtain ⟨global, hasText, read⟩ := read
      cases read
      exact .luaString named hasText
    case h_6 named =>
      obtain ⟨pattern, hasData, name, hasText, read⟩ := read
      cases read
      exact .driver named hasData hasText
    case h_7 named =>
      obtain ⟨name, hasText, read⟩ := read
      cases read
      exact .module named hasText
  · intro holds
    unfold toKind
    cases holds with
    | memory named hasAddress hasLength hasResult =>
      simp only [named, bind_ok_iff, need_ok_iff, needHex_ok_iff]
      exact ⟨_, hasAddress, _, hasLength, _, hasResult, rfl⟩
    | pageA named hasData hasAddress hasLength | pageB named hasData hasAddress hasLength =>
      simp only [named, bind_ok_iff, need_ok_iff, needHex_ok_iff]
      exact ⟨_, hasData, _, hasAddress, _, hasLength, rfl⟩
    | mpq named hasResult hasText =>
      simp only [named, bind_ok_iff, need_ok_iff, needHex_ok_iff, needDigest_ok_iff]
      exact ⟨_, hasResult, _, hasText, _, rfl, rfl⟩
    | luaString named hasText | module named hasText =>
      simp only [named, bind_ok_iff, need_ok_iff]
      exact ⟨_, hasText, rfl⟩
    | driver named hasData hasText =>
      simp only [named, bind_ok_iff, need_ok_iff, needHex_ok_iff]
      exact ⟨_, hasData, _, hasText, rfl⟩

theorem toCheck_ok_iff {c : Check} :
    row.toCheck = .ok c ↔ row.Holds c.kind ∧
      c.id = row.id ∧ c.build = row.build ∧ c.comment = row.comment := by
  rw [← toKind_ok_iff, toCheck]
  obtain ⟨id, build, kind, comment⟩ := c
  cases row.toKind with
  | error cause => exact ⟨nofun, fun h => nomatch h.1⟩
  | ok found =>
    simp only [Except.map, Except.ok.injEq, Check.mk.injEq]
    constructor
    · rintro ⟨rfl, rfl, rfl, rfl⟩
      exact ⟨rfl, rfl, rfl, rfl⟩
    · rintro ⟨rfl, rfl, rfl, rfl⟩
      exact ⟨rfl, rfl, rfl, rfl⟩

/-- A text spells one byte string only. -/
theorem Spells.unique {text? : Option String} {a b : Bytes} (h : Spells text? a)
    (h' : Spells text? b) : a = b := by
  obtain ⟨text, rfl, decoded⟩ := h
  obtain ⟨_, same, decoded'⟩ := h'
  cases same
  rw [decoded] at decoded'
  exact Except.ok.inj decoded'

theorem Holds.name {kind : Kind} (h : row.Holds kind) : row.kind = kind.name := by
  cases h <;> assumption

theorem Holds.complete {kind : Kind} (h : row.Holds kind) : row.Complete := by
  have known : row.kind ∈ kindNames := by
    rw [h.name]
    cases h <;> simp [kindNames, Kind.name, Kind.tag, Wire.Tag.label]
  have digest : row.kind = "mpq" → ∀ b, Spells row.result b → b.length = 20 := by
    intro named b spelled
    cases h with
    | mpq _ hasResult => rw [spelled.unique hasResult, Vector.length_toList]
    | _ other => exact absurd (named.symm.trans other) (by decide)
  refine ⟨known, ?_, digest⟩
  rw [h.name]
  cases h with
  | memory named hasAddress hasLength hasResult =>
    exact List.forall_mem_cons.2 ⟨⟨_, hasAddress⟩, List.forall_mem_cons.2 ⟨⟨_, hasLength⟩,
      List.forall_mem_singleton.2 ⟨_, hasResult⟩⟩⟩
  | pageA named hasData hasAddress hasLength | pageB named hasData hasAddress hasLength =>
    exact List.forall_mem_cons.2 ⟨⟨_, hasData⟩, List.forall_mem_cons.2 ⟨⟨_, hasAddress⟩,
      List.forall_mem_singleton.2 ⟨_, hasLength⟩⟩⟩
  | mpq named hasResult hasText =>
    exact List.forall_mem_cons.2 ⟨⟨_, hasText⟩, List.forall_mem_singleton.2 ⟨_, hasResult⟩⟩
  | luaString named hasText | module named hasText =>
    exact List.forall_mem_singleton.2 ⟨_, hasText⟩
  | driver named hasData hasText =>
    exact List.forall_mem_cons.2 ⟨⟨_, hasData⟩, List.forall_mem_singleton.2 ⟨_, hasText⟩⟩

/-- A row asks something just if it is complete. -/
theorem exists_holds_iff : (∃ kind, row.Holds kind) ↔ row.Complete := by
  refine ⟨fun ⟨_, holds⟩ => holds.complete, fun complete => ?_⟩
  have known := complete.known
  have filled := complete.filled
  simp only [kindNames, List.mem_cons, List.not_mem_nil, or_false] at known
  rcases known with named | named | named | named | named | named | named <;>
    simp only [named, columns, List.forall_mem_cons] at filled
  case inl =>
    obtain ⟨⟨address, hasAddress⟩, ⟨length, hasLength⟩, ⟨expected, hasResult⟩, -⟩ := filled
    exact ⟨_, .memory named hasAddress hasLength hasResult⟩
  case inr.inl =>
    obtain ⟨⟨pattern, hasData⟩, ⟨address, hasAddress⟩, ⟨length, hasLength⟩, -⟩ := filled
    exact ⟨_, .pageA named hasData hasAddress hasLength⟩
  case inr.inr.inl =>
    obtain ⟨⟨pattern, hasData⟩, ⟨address, hasAddress⟩, ⟨length, hasLength⟩, -⟩ := filled
    exact ⟨_, .pageB named hasData hasAddress hasLength⟩
  case inr.inr.inr.inl =>
    obtain ⟨⟨path, hasText⟩, ⟨expected, hasResult⟩, -⟩ := filled
    have size : expected.toArray.size = 20 := complete.digest named expected hasResult
    exact ⟨.mpq path ⟨expected.toArray, size⟩, .mpq named hasResult hasText⟩
  case inr.inr.inr.inr.inl =>
    obtain ⟨⟨global, hasText⟩, -⟩ := filled
    exact ⟨_, .luaString named hasText⟩
  case inr.inr.inr.inr.inr.inl =>
    obtain ⟨⟨pattern, hasData⟩, ⟨name, hasText⟩, -⟩ := filled
    exact ⟨_, .driver named hasData hasText⟩
  case inr.inr.inr.inr.inr.inr =>
    obtain ⟨⟨name, hasText⟩, -⟩ := filled
    exact ⟨_, .module named hasText⟩

/-- Reading a row looks at nothing that its kind does not use. -/
theorem SameUsed.toCheck_eq {other : Row} (h : row.SameUsed other) :
    other.toCheck = row.toCheck := by
  obtain ⟨id, build, kind, data, address, length, str, result, comment⟩ := row
  obtain ⟨id', build', kind', data', address', length', str', result', comment'⟩ := other
  obtain ⟨rfl, rfl, rfl, rfl, used⟩ := h
  have same : (toKind ⟨id, build, kind, data', address', length', str', result', comment⟩) =
      toKind ⟨id, build, kind, data, address, length, str, result, comment⟩ := by
    simp only [toKind]
    split
    case h_8 => rfl
    all_goals simp only [columns, List.forall_mem_cons, Agree] at used
    case h_1 | h_2 | h_3 =>
      obtain ⟨rfl, rfl, rfl, -⟩ := used
      rfl
    case h_4 | h_6 =>
      obtain ⟨rfl, rfl, -⟩ := used
      rfl
    case h_5 | h_7 =>
      obtain ⟨rfl, -⟩ := used
      rfl
  rw [toCheck, same]
  rfl

/-! ### Writing -/

/-- The row with its hexadecimal texts written anew. -/
def respell (write : String → String) (row : Row) : Row :=
  { row with data := row.data.map write, result := row.result.map write }

/-- Whether a check was written as this row, in letters of either case. -/
inductive Writes : Row → Check → Prop
  | lower (c : Check) : Writes (ofCheck c) c
  | upper (c : Check) : Writes ((ofCheck c).respell String.toUpper) c

theorem respell_self (row : Row) : row.respell (fun text => text) = row := by
  simp [respell]

/-- The row of a check asks what the check does, as long as its texts can be read. -/
theorem holds_respell {write : String → String}
    (reads : ∀ b, Hex.decode (write (Hex.encode b)) = .ok b) (c : Check) :
    ((ofCheck c).respell write).Holds c.kind := by
  have spells : ∀ b, Spells ((some (Hex.encode b)).map write) b := fun b => ⟨_, rfl, reads b⟩
  obtain ⟨id, build, kind, comment⟩ := c
  cases kind with
  | memory => exact .memory rfl rfl rfl (spells _)
  | pageA => exact .pageA rfl (spells _) rfl rfl
  | pageB => exact .pageB rfl (spells _) rfl rfl
  | mpq => exact .mpq rfl (spells _) rfl
  | luaString => exact .luaString rfl rfl
  | driver => exact .driver rfl (spells _) rfl
  | module => exact .module rfl rfl

theorem toCheck_respell {write : String → String}
    (reads : ∀ b, Hex.decode (write (Hex.encode b)) = .ok b) (c : Check) :
    ((ofCheck c).respell write).toCheck = .ok c := by
  refine toCheck_ok_iff.2 ⟨holds_respell reads c, ?_⟩
  obtain ⟨id, build, kind, comment⟩ := c
  cases kind <;> exact ⟨rfl, rfl, rfl⟩

/-- A check that was written as a row is read back. -/
theorem Writes.toCheck {c : Check} (h : row.Writes c) : row.toCheck = .ok c := by
  cases h with
  | lower =>
    have read := @toCheck_respell (fun text => text) Hex.decode_encode c
    rwa [respell_self] at read
  | upper => exact toCheck_respell Hex.decode_encode_toUpper c

end Row

end Check

namespace Catalog

open Check (Row)

theorem readRow_ok_iff {row : Row} {c : Check} : readRow row = .ok c ↔ row.toCheck = .ok c := by
  rw [readRow]
  cases row.toCheck with
  | error cause => exact ⟨nofun, nofun⟩
  | ok found => rw [Except.mapError, Except.ok.injEq, Except.ok.injEq]

/-- Rows are read one by one. -/
theorem readRows_ok_iff {rows : List Row} {checks : List Check} :
    readRows rows = .ok checks ↔ List.Forall₂ (fun row c => row.toCheck = .ok c) rows checks := by
  induction rows generalizing checks with
  | nil =>
    rw [List.forall₂_nil_left_iff]
    exact ⟨fun h => (Except.ok.inj h).symm, fun h => by rw [h, readRows]⟩
  | cons row rest ih =>
    rw [readRows, List.forall₂_cons_left_iff]
    simp only [Row.bind_ok_iff, readRow_ok_iff, ih]
    constructor
    · rintro ⟨c, read, more, later, same⟩
      exact ⟨c, more, read, later, (Except.ok.inj same).symm⟩
    · rintro ⟨c, more, read, later, rfl⟩
      exact ⟨c, read, more, later, rfl⟩

end Catalog

namespace Check

namespace Row

/-- **Rows and checks correspond.** A row describes a check just if its kind is known and all
columns that the kind uses are filled, with hexadecimal text where bytes stand and a digest of
twenty bytes for an archive file. The check has the id, the build and the comment of the row and
asks what these columns hold; no column that the kind does not use has any say. Checks that were
written as rows, in lower or in upper case, are read back, and a catalog is loaded from such rows as
from the checks, with the same fault if it is refused. -/
theorem rows_describe_checks :
    (∀ row : Row, (∃ c, row.toCheck = .ok c) ↔ row.Complete) ∧
    (∀ (row : Row) (c : Check), row.toCheck = .ok c ↔
      row.Holds c.kind ∧ c.id = row.id ∧ c.build = row.build ∧ c.comment = row.comment) ∧
    (∀ row other : Row, row.SameUsed other → other.toCheck = row.toCheck) ∧
    (∀ (row : Row) (c : Check), row.Writes c → row.toCheck = .ok c) ∧
    ∀ (rows : List Row) (checks : List Check), List.Forall₂ Writes rows checks →
      Catalog.ofRows rows = Catalog.ofChecks checks := by
  refine ⟨fun row => ?_, fun _ _ => toCheck_ok_iff, fun _ _ => SameUsed.toCheck_eq,
    fun _ _ => Writes.toCheck, fun rows checks written => ?_⟩
  · rw [← exists_holds_iff]
    constructor
    · rintro ⟨c, read⟩
      exact ⟨c.kind, (toCheck_ok_iff.1 read).1⟩
    · rintro ⟨kind, holds⟩
      exact ⟨⟨row.id, row.build, kind, row.comment⟩, toCheck_ok_iff.2 ⟨holds, rfl, rfl, rfl⟩⟩
  · have read : Catalog.readRows rows = .ok checks :=
      Catalog.readRows_ok_iff.2 (written.imp fun _ _ => Writes.toCheck)
    rw [Catalog.ofRows, read]
    rfl

/-- A driver has no result, so a text that spells nothing may stand there; and the pattern of a page
may be written in upper case. -/
theorem sample_rows_read :
    (⟨1, 5875, "driver", some "0a", none, none, some "disk", some "zz", ""⟩ : Row).toCheck =
        (⟨1, 5875, "driver", some "0a", none, none, some "disk", none, ""⟩ : Row).toCheck ∧
      Catalog.ofRows
          [(ofCheck ⟨2, 5875, .pageA [0xAB, 0xCD] 0x1000 16, ""⟩).respell String.toUpper,
            ofCheck ⟨3, 5875, .module "core", ""⟩] =
        Catalog.ofChecks [⟨2, 5875, .pageA [0xAB, 0xCD] 0x1000 16, ""⟩,
          ⟨3, 5875, .module "core", ""⟩] := by
  obtain ⟨-, -, unused, -, lists⟩ := rows_describe_checks
  constructor
  · refine unused _ _ ⟨rfl, rfl, rfl, rfl, fun column used => ?_⟩
    simp only [columns, List.mem_cons, List.not_mem_nil, or_false] at used
    rcases used with rfl | rfl <;> rfl
  · exact lists _ _ (.cons (.upper _) (.cons (.lower _) .nil))

end Row

end Check

end Attest
