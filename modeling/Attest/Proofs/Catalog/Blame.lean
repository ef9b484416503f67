import Attest.Proofs.Catalog.Index
import Attest.Proofs.Check.Row

/-!
# Which row a refused load blames

A row is wrong if it describes no check, if its check cannot be used, or if an earlier row has its
id and build. All rows are read before the first check is added, so the first wrong row of a list is
not always the one that is blamed: a row that describes no check goes before any other
(`Catalog.first_wrong_row_not_blamed`). `Catalog.unread_row_blamed_first` tells the row that is, for
every list, and when it is the first wrong one.
-/

namespace Attest

namespace Check

/-- What tells a row from the others. -/
def Row.key (row : Row) : Build × CheckId :=
  (row.build, row.id)

theorem Row.key_of_toCheck {row : Row} {c : Check} (h : row.toCheck = .ok c) : c.key = row.key := by
  obtain ⟨-, id, build, -⟩ := Row.toCheck_ok_iff.1 h
  rw [Check.key, Row.key, id, build]

end Check

namespace Catalog

open Check (Row)

/-- What is wrong with a row that stands behind others. -/
def wrong? (before : List Row) (row : Row) : Option Check.Fault :=
  match row.toCheck with
  | .error cause => some (.row cause)
  | .ok c =>
    match c.defect? with
    | some defect => some (.defect defect)
    | none => if row.key ∈ before.map Row.key then some (.duplicate row.build) else none

/-- The fault of the first wrong row of a list that stands behind other rows. -/
def firstWrong? (before : List Row) : List Row → Option Fault
  | [] => none
  | row :: rest =>
    match wrong? before row with
    | some cause => some (.check row.id cause)
    | none => firstWrong? (before ++ [row]) rest

/-- The fault of the first row that describes no check. -/
def firstUnread? : List Row → Option Fault
  | [] => none
  | row :: rest =>
    match row.toCheck with
    | .error cause => some (.check row.id (.row cause))
    | .ok _ => firstUnread? rest

variable {catalog : Catalog} {rows before : List Row} {fault : Fault}

/-! ### The first wrong row -/

theorem firstWrong?_append (before rows after : List Row) :
    firstWrong? before (rows ++ after) =
      (firstWrong? before rows).or (firstWrong? (before ++ rows) after) := by
  induction rows generalizing before with
  | nil => simp [firstWrong?]
  | cons row rest ih =>
    rw [List.cons_append, firstWrong?, firstWrong?]
    cases wrong? before row with
    | some cause => rfl
    | none => simp only [ih, List.append_assoc, List.cons_append, List.nil_append]

theorem wrong?_of_unread {row : Row} {cause : Row.Fault} (h : row.toCheck = .error cause)
    (before : List Row) : wrong? before row = some (.row cause) := by
  rw [wrong?, h]

/-- A row that is read is not wrong for how it reads. -/
theorem wrong?_ne_row {row : Row} {c : Check} (h : row.toCheck = .ok c) (before : List Row)
    (cause : Row.Fault) : wrong? before row ≠ some (.row cause) := by
  rw [wrong?, h]
  cases sound : c.defect? with
  | some defect => simp [sound]
  | none => by_cases taken : row.key ∈ before.map Row.key <;> simp [sound, taken]

/-- If all rows are read, none is blamed for how it reads. -/
theorem firstWrong?_ne_row (read : firstUnread? rows = none) (before : List Row) (id : CheckId)
    (cause : Row.Fault) : firstWrong? before rows ≠ some (.check id (.row cause)) := by
  induction rows generalizing before with
  | nil => exact nofun
  | cons row rest ih =>
    rw [firstUnread?] at read
    cases found : row.toCheck with
    | error cause =>
      rw [found] at read
      cases read
    | ok c =>
      rw [found] at read
      have own := wrong?_ne_row found before cause
      rw [firstWrong?]
      cases wrong : wrong? before row with
      | none => exact ih read _
      | some other =>
        rintro same
        cases same
        exact own wrong

/-- If no row is wrong, all are read. -/
theorem firstUnread?_of_firstWrong? (sound : firstWrong? before rows = none) :
    firstUnread? rows = none := by
  induction rows generalizing before with
  | nil => rfl
  | cons row rest ih =>
    rw [firstWrong?] at sound
    cases found : row.toCheck with
    | error cause =>
      rw [wrong?_of_unread found] at sound
      cases sound
    | ok c =>
      cases wrong : wrong? before row with
      | some cause =>
        rw [wrong] at sound
        cases sound
      | none =>
        rw [wrong] at sound
        rw [firstUnread?, found]
        exact ih sound

/-! ### Reading all rows -/

theorem readRows_error_iff : readRows rows = .error fault ↔ firstUnread? rows = some fault := by
  induction rows with
  | nil => exact iff_of_false (by simp [readRows]) (by simp [firstUnread?])
  | cons row rest ih =>
    rw [readRows, readRow, firstUnread?]
    cases row.toCheck with
    | error cause =>
      change Except.error _ = _ ↔ _
      rw [Except.error.injEq, Option.some.injEq]
    | ok c =>
      change (readRows rest >>= fun checks => pure (c :: checks)) = _ ↔ firstUnread? rest = _
      rw [← ih]
      cases readRows rest with
      | error other => exact Iff.rfl
      | ok checks =>
        change Except.ok (c :: checks) = _ ↔ _
        simp

/-! ### Adding checks -/

/-- A check is refused as its row is wrong, if the catalog holds the checks of the rows before. -/
theorem insert_eq {row : Row} {c : Check} (read : row.toCheck = .ok c)
    (held : ∀ key, key ∈ catalog.checks.map Check.key ↔ key ∈ before.map Row.key) :
    match wrong? before row with
    | some cause => catalog.insert c = .error (.check row.id cause)
    | none => ∃ next, catalog.insert c = .ok next := by
  obtain ⟨-, id, build, -⟩ := Row.toCheck_ok_iff.1 read
  have key := Row.key_of_toCheck read
  rw [wrong?, read, ← id, ← build]
  cases sound : c.defect? with
  | some defect =>
    simp only [sound]
    exact insert_of_defect sound
  | none =>
    by_cases taken : row.key ∈ before.map Row.key
    · simp only [sound, if_pos taken]
      exact insert_of_taken sound ((held _).2 (key ▸ taken))
    · simp only [sound, if_neg taken]
      refine exists_insert sound fun d hd same => taken ((held _).1 ?_)
      rw [← key, ← same]
      exact List.mem_map_of_mem hd

theorem insertAll_error_iff {checks : List Check}
    (read : List.Forall₂ (fun row c => row.toCheck = .ok c) rows checks)
    (held : ∀ key, key ∈ catalog.checks.map Check.key ↔ key ∈ before.map Row.key) :
    catalog.insertAll checks = .error fault ↔ firstWrong? before rows = some fault := by
  induction read generalizing catalog before with
  | nil => exact ⟨nofun, nofun⟩
  | @cons row c rest more first _ ih =>
    have here := insert_eq first held
    rw [insertAll, firstWrong?]
    cases wrong : wrong? before row with
    | some cause =>
      rw [wrong] at here
      simp only at here
      rw [here]
      change Except.error _ = _ ↔ _
      rw [Except.error.injEq, Option.some.injEq]
    | none =>
      rw [wrong] at here
      obtain ⟨next, added⟩ := here
      rw [added]
      refine ih fun key => ?_
      rw [((insert_of_ok added).2.map _).mem_iff]
      simp only [List.map_cons, List.map_append, List.map_nil, List.mem_cons, List.mem_append,
        List.not_mem_nil, or_false, held, Row.key_of_toCheck first]
      exact or_comm

/-! ### Every list of rows -/

/-- If all rows are read, the first wrong one is blamed. -/
theorem ofRows_error_iff (read : firstUnread? rows = none) :
    ofRows rows = .error fault ↔ firstWrong? [] rows = some fault := by
  cases found : readRows rows with
  | error other =>
    rw [readRows_error_iff.1 found] at read
    cases read
  | ok checks =>
    rw [ofRows, found]
    exact insertAll_error_iff (readRows_ok_iff.1 found) fun key => by simp [empty]

/-- Otherwise the first that is not read is blamed. -/
theorem ofRows_of_unread (unread : firstUnread? rows = some fault) :
    ofRows rows = .error fault := by
  rw [ofRows, readRows_error_iff.2 unread]
  rfl

/-- A list is loaded just if no row is wrong. -/
theorem exists_ofRows_iff :
    (∃ catalog, ofRows rows = .ok catalog) ↔ firstWrong? [] rows = none := by
  constructor
  · rintro ⟨catalog, loaded⟩
    cases unread : firstUnread? rows with
    | some fault =>
      rw [ofRows_of_unread unread] at loaded
      cases loaded
    | none =>
      cases wrong : firstWrong? [] rows with
      | none => rfl
      | some fault =>
        rw [(ofRows_error_iff unread).2 wrong] at loaded
        cases loaded
  · intro sound
    cases loaded : ofRows rows with
    | ok catalog => exact ⟨catalog, rfl⟩
    | error fault =>
      rw [(ofRows_error_iff (firstUnread?_of_firstWrong? sound)).1 loaded] at sound
      cases sound

/-- What is found first behind rows that are read. -/
theorem firstUnread?_append (read : firstUnread? before = none) (rows : List Row) :
    firstUnread? (before ++ rows) = firstUnread? rows := by
  induction before with
  | nil => rfl
  | cons row rest ih =>
    rw [firstUnread?] at read
    cases found : row.toCheck with
    | error cause =>
      rw [found] at read
      cases read
    | ok c =>
      rw [found] at read
      rw [List.cons_append, firstUnread?, found]
      exact ih read

/-- **A refused load blames the first row that describes no check**, and if all rows describe
checks, the first wrong one. A list is refused just if some row is wrong. The first row that
describes no check is the first wrong one just if none of the rows before it is wrong. -/
theorem unread_row_blamed_first (rows : List Row) :
    ((∃ catalog, ofRows rows = .ok catalog) ↔ firstWrong? [] rows = none) ∧
    (firstUnread? rows = none →
      ∀ fault, ofRows rows = .error fault ↔ firstWrong? [] rows = some fault) ∧
    ∀ before row after cause, rows = before ++ row :: after → firstUnread? before = none →
      row.toCheck = .error cause →
        ofRows rows = .error (.check row.id (.row cause)) ∧
        (firstWrong? [] rows = some (.check row.id (.row cause)) ↔
          firstWrong? [] before = none) := by
  refine ⟨exists_ofRows_iff, fun read fault => ofRows_error_iff read, ?_⟩
  rintro before row after cause rfl read unread
  have first : firstUnread? (row :: after) = some (.check row.id (.row cause)) := by
    rw [firstUnread?, unread]
  have own : firstWrong? before (row :: after) = some (.check row.id (.row cause)) := by
    rw [firstWrong?, wrong?_of_unread unread]
  refine ⟨ofRows_of_unread ((firstUnread?_append read _).trans first), ?_⟩
  rw [firstWrong?_append, List.nil_append, own]
  cases wrong : firstWrong? [] before with
  | none => exact ⟨fun _ => rfl, fun _ => rfl⟩
  | some fault =>
    refine ⟨fun same => ?_, nofun⟩
    cases same
    exact absurd wrong (firstWrong?_ne_row read [] row.id cause)

/-- A row of no known kind behind one that is right and before one whose check cannot be used. -/
theorem sample_blame :
    ofRows [⟨1, 5875, "module", none, none, none, some "core", none, ""⟩,
        ⟨2, 5875, "teleport", none, none, none, none, none, ""⟩,
        ⟨3, 5875, "module", none, none, none, some "", none, ""⟩] =
      .error (.check 2 (.row (.unknownKind "teleport"))) := by
  obtain ⟨-, -, blamed⟩ := unread_row_blamed_first
    [⟨1, 5875, "module", none, none, none, some "core", none, ""⟩,
      ⟨2, 5875, "teleport", none, none, none, none, none, ""⟩,
      ⟨3, 5875, "module", none, none, none, some "", none, ""⟩]
  exact (blamed [_] _ [_] _ rfl (by decide) (by decide)).1

/-- A row whose check cannot be used, and one of no known kind. -/
def wrongRows : List Row :=
  [⟨1, 5875, "module", none, none, none, some "", none, ""⟩,
    ⟨2, 5875, "teleport", none, none, none, none, none, ""⟩]

/-- The first of these rows is wrong, but the second one is blamed. -/
theorem first_wrong_row_not_blamed :
    firstWrong? [] wrongRows = some (.check 1 (.defect .noName)) ∧
      ofRows wrongRows = .error (.check 2 (.row (.unknownKind "teleport"))) :=
  ⟨by decide, ofRows_of_unread (by decide)⟩

end Catalog

end Attest
