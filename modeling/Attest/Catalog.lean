import Attest.Fault

/-!
# The catalog

A catalog holds the checks of all builds. It is a list, ascending by build and then by id, of
checks without a defect; whatever is asked of it is read off that list, so the order in which the
checks were added leaves no trace.
-/

namespace Attest

namespace Check

/-- Ranks checks by build and then by id; equal ranks mean the same id of the same build. -/
def rank (c : Check) : Nat :=
  c.build.toNat * 65536 + c.id.toNat

/-- Adds a check before the first one of a higher rank. -/
def insertByRank (c : Check) : List Check → List Check
  | [] => [c]
  | d :: rest => if c.rank < d.rank then c :: d :: rest else d :: insertByRank c rest

theorem mem_insertByRank {c d : Check} {checks : List Check} :
    d ∈ insertByRank c checks ↔ d = c ∨ d ∈ checks := by
  induction checks with
  | nil => simp [insertByRank]
  | cons e rest ih =>
    unfold insertByRank
    split
    · simp
    · simp only [List.mem_cons, ih]
      constructor <;> rintro (h | h | h) <;> simp [h]

theorem pairwise_insertByRank {c : Check} {checks : List Check}
    (ascending : checks.Pairwise fun a b => a.rank < b.rank)
    (fresh : ∀ d ∈ checks, d.rank ≠ c.rank) :
    (insertByRank c checks).Pairwise fun a b => a.rank < b.rank := by
  induction checks with
  | nil => simp [insertByRank]
  | cons d rest ih =>
    obtain ⟨first, ascending⟩ := List.pairwise_cons.1 ascending
    have freshD := fresh d (by simp)
    unfold insertByRank
    split
    case isTrue h =>
      refine List.pairwise_cons.2 ⟨fun e he => ?_, List.pairwise_cons.2 ⟨first, ascending⟩⟩
      rcases List.mem_cons.1 he with rfl | he
      · exact h
      · exact Nat.lt_trans h (first e he)
    case isFalse h =>
      refine List.pairwise_cons.2 ⟨fun e he => ?_, ih ascending fun e he => fresh e (by simp [he])⟩
      rcases mem_insertByRank.1 he with rfl | he
      · omega
      · exact first e he

end Check

/-- The checks of all builds. -/
structure Catalog where
  /-- The checks by rank. -/
  checks : List Check
  ascending : checks.Pairwise fun a b => a.rank < b.rank
  sound : ∀ c ∈ checks, c.defect? = none

namespace Catalog

/-- The catalog without checks. -/
def empty : Catalog :=
  ⟨[], List.Pairwise.nil, by simp⟩

/-- Adds a check without a defect whose id its build does not have yet. -/
def insert (catalog : Catalog) (c : Check) : Except Fault Catalog :=
  match sound : c.defect? with
  | some defect => .error (.check c.id (.defect defect))
  | none =>
    if fresh : ∀ d ∈ catalog.checks, d.rank ≠ c.rank then
      .ok ⟨c.insertByRank catalog.checks, Check.pairwise_insertByRank catalog.ascending fresh,
        fun d hd => by
          rcases Check.mem_insertByRank.1 hd with rfl | hd
          · exact sound
          · exact catalog.sound d hd⟩
    else .error (.check c.id (.duplicate c.build))

/-- Adds checks in order, up to the first that cannot be added. -/
def insertAll (catalog : Catalog) : List Check → Except Fault Catalog
  | [] => .ok catalog
  | c :: rest => do (← catalog.insert c).insertAll rest

/-- The catalog of a list of checks. -/
def ofChecks (checks : List Check) : Except Fault Catalog :=
  empty.insertAll checks

/-- The check that a row describes. -/
def readRow (row : Check.Row) : Except Fault Check :=
  row.toCheck.mapError fun cause => .check row.id (.row cause)

/-- The checks that rows describe, up to the first that describes none. -/
def readRows : List Check.Row → Except Fault (List Check)
  | [] => .ok []
  | row :: rest => do
    let c ← readRow row
    let checks ← readRows rest
    return c :: checks

/-- The catalog of a list of rows. All rows are read before the first check is added. -/
def ofRows (rows : List Check.Row) : Except Fault Catalog := do
  ofChecks (← readRows rows)

/-- The number of checks. -/
def size (catalog : Catalog) : Nat :=
  catalog.checks.length

/-- The check of a build with an id. -/
def get? (catalog : Catalog) (build : Build) (id : CheckId) : Option Check :=
  catalog.checks.find? fun c => c.build = build ∧ c.id = id

/-- The check of a build with an id that was taken from this catalog before. -/
def require (catalog : Catalog) (build : Build) (id : CheckId) : Except Fault Check :=
  match catalog.get? build id with
  | some c => .ok c
  | none => .error (.desync build id)

/-- What the answer to a check is compared with, if it is compared. -/
def expectation? (catalog : Catalog) (build : Build) (id : CheckId) : Option Bytes :=
  (catalog.get? build id).bind (·.kind.expectation?)

/-- The checks of a build by id. -/
def definitions (catalog : Catalog) (build : Build) : List Check :=
  catalog.checks.filter (·.build = build)

/-- The ids of a build's checks in one pool, ascending. -/
def poolIds (catalog : Catalog) (build : Build) (pool : Pool) : List CheckId :=
  ((catalog.definitions build).filter (·.kind.pool = pool)).map (·.id)

/-- The builds that have a check, ascending. -/
def builds (catalog : Catalog) : List Build :=
  (catalog.checks.map (·.build)).eraseReps

end Catalog

end Attest
