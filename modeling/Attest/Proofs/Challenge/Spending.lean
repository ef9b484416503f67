import Attest.Proofs.Challenge.Decoding
import Attest.Proofs.Challenge.Seeding

/-!
# The seeds that a challenge takes

Building a challenge takes one word of the seeds for each module check that it reaches, and it
reaches the checks in their order, up to the first one that has no entry.

* `Challenge.served` : the checks that get an entry; it reads the catalog only, so no seed can
  change what is reached;
* `Challenge.seeds_ofSelection` : the words that are taken, whether the challenge can be built or
  not;
* `Challenge.shown_ofSelection` : a client reads just these words in the challenge, each in the
  entry for the check that it was taken for.
-/

namespace Attest

namespace Challenge

/-! ### Checks that get an entry -/

/-- Whether a check of a kind takes a seed. -/
def takesSeed (kind : Check.Kind) : Bool :=
  (moduleName? kind).isSome

/-- The checks that take a seed. -/
def takers (checks : List Check) : List CheckId :=
  (checks.filter (takesSeed ·.kind)).map (·.id)

/-- Whether there is an entry for a check of a kind behind `used` strings. -/
def HasEntry (kind : Check.Kind) (used : Nat) : Prop :=
  kind.string? = none ∨ used < 255

instance (kind : Check.Kind) (used : Nat) : Decidable (HasEntry kind used) :=
  inferInstanceAs (Decidable (_ ∨ _))

section Served

variable (catalog : Catalog) (build : Build)

/-- The checks that get an entry behind `used` strings: those in front of the first one that the
catalog does not have, or whose string no index can tell apart. -/
def served : List CheckId → Nat → List Check
  | [], _ => []
  | id :: rest, used =>
    match catalog.get? build id with
    | none => []
    | some c =>
      if HasEntry c.kind used then c :: served rest (used + c.kind.string?.toList.length) else []

/-- The module checks that the building of a challenge reaches, in the order of their entries. It
reaches none if it fails at the strings. -/
def reached (selection : Selection) : List CheckId :=
  match strings catalog build selection.secondary with
  | .error _ => []
  | .ok _ => takers (served catalog build selection.inFlight 0)

/-- The seeds that a client who knows the mask reads in a challenge, each with its check. -/
def shown (mask : UInt8) (ids : List CheckId) (payload : Bytes) : List (CheckId × UInt32) :=
  match decode? mask ((catalog.found build ids).map (·.kind.patternLength)) payload with
  | none => []
  | some request =>
    (ids.zip request.entries).filterMap fun entry => entry.2.seed?.map (entry.1, ·)

end Served

variable {catalog : Catalog} {build : Build}

/-- An entry takes one seed if it is about a module, and none otherwise. -/
theorem entryOf?_of_hasEntry {kind : Check.Kind} {used : Nat} (h : HasEntry kind used)
    (seeds : SeedStream) :
    ∃ e, entryOf? kind used seeds =
        some (e, used + kind.string?.toList.length, seeds.skip (takesSeed kind).toNat) ∧
      e.seed? = if takesSeed kind then some (seeds.ahead 0) else none := by
  cases kind with
  | memory | pageA | pageB | module => exact ⟨_, rfl, rfl⟩
  | mpq | luaString | driver =>
    have room : used < 255 := h.resolve_left (by simp [Check.Kind.string?])
    simp only [entryOf?, nextIndex?, if_pos room]
    exact ⟨_, rfl, rfl⟩

theorem entryOf?_of_not_hasEntry {kind : Check.Kind} {used : Nat} (h : ¬ HasEntry kind used)
    (seeds : SeedStream) : entryOf? kind used seeds = none := by
  obtain ⟨string, full⟩ := not_or.1 h
  obtain ⟨s, carried⟩ := Option.ne_none_iff_exists'.1 string
  have text : text? kind = some (Bytes.ofString s) := by
    rw [text?, carried, Option.map_some]
  exact entryOf?_eq_none seeds text (Nat.le_of_not_lt full)

theorem require_eq (catalog : Catalog) (build : Build) (id : CheckId) :
    catalog.require build id =
      match catalog.get? build id with
      | some c => .ok c
      | none => .error (.desync build id) := rfl

theorem takers_cons_of_takesSeed {c : Check} (h : takesSeed c.kind = true) (rest : List Check) :
    takers (c :: rest) = c.id :: takers rest := by
  simp [takers, h]

theorem takers_cons_of_not_takesSeed {c : Check} (h : takesSeed c.kind = false)
    (rest : List Check) : takers (c :: rest) = takers rest := by
  simp [takers, h]

/-- The entries take a seed for each module check that gets one. -/
theorem seeds_entries (ids : List CheckId) (used : Nat) (seeds : SeedStream) :
    (entries catalog build ids used seeds).2 =
      seeds.skip (takers (served catalog build ids used)).length := by
  induction ids generalizing used seeds with
  | nil => rfl
  | cons id rest ih =>
    rw [entries, served, require_eq]
    cases catalog.get? build id with
    | none => rfl
    | some c =>
      by_cases has : HasEntry c.kind used
      · obtain ⟨e, entry, -⟩ := entryOf?_of_hasEntry has seeds
        simp only [entry, if_pos has, ih, SeedStream.skip_skip]
        cases takes : takesSeed c.kind with
        | true => rw [takers_cons_of_takesSeed takes, List.length_cons, Nat.add_comm]; rfl
        | false => rw [takers_cons_of_not_takesSeed takes, Bool.toNat_false, Nat.zero_add]
      · simp only [entryOf?_of_not_hasEntry has, if_neg has]
        rfl

/-- If all checks get an entry, the entries show the seeds that they took. -/
theorem shown_entries {ids : List CheckId} {used : Nat} {seeds later : SeedStream}
    {es : List Entry} (built : entries catalog build ids used seeds = (.ok es, later)) :
    served catalog build ids used = catalog.found build ids ∧
      (ids.zip es).filterMap (fun entry => entry.2.seed?.map (entry.1, ·)) =
        (takers (served catalog build ids used)).zip
          (seeds.words (takers (served catalog build ids used)).length) := by
  induction ids generalizing used seeds later es with
  | nil => exact ⟨rfl, rfl⟩
  | cons id rest ih =>
    rw [entries, require_eq] at built
    rw [served, Catalog.found]
    cases found : catalog.get? build id with
    | none =>
      rw [found] at built
      cases built
    | some c =>
      obtain rfl : c.id = id := Catalog.id_of_get? found
      simp only [found] at built
      by_cases has : HasEntry c.kind used
      · obtain ⟨e, entry, seed⟩ := entryOf?_of_hasEntry has seeds
        simp only [entry] at built
        rcases more : entries catalog build rest (used + c.kind.string?.toList.length)
          (seeds.skip (takesSeed c.kind).toNat) with ⟨fault | es', later'⟩
        · rw [more] at built
          cases built
        · rw [more] at built
          obtain ⟨rfl, -⟩ : e :: es' = es ∧ later' = later := by
            simpa [Except.map] using built
          obtain ⟨all, shows⟩ := ih more
          simp only [if_pos has, List.filterMap_cons_some found]
          refine ⟨congrArg (c :: ·) all, ?_⟩
          rw [List.zip_cons_cons, List.filterMap_cons, seed, shows]
          cases takes : takesSeed c.kind with
          | true =>
            rw [takers_cons_of_takesSeed takes, List.length_cons, SeedStream.words_succ,
              List.zip_cons_cons]
            rfl
          | false =>
            rw [takers_cons_of_not_takesSeed takes]
            rfl
      · simp only [entryOf?_of_not_hasEntry has] at built
        cases built

/-! ### Challenges -/

/-- **Building a challenge takes a word for each module check that it reaches**, whether it can be
built or not. -/
theorem seeds_ofSelection (catalog : Catalog) (build : Build) (selection : Selection) (mask : UInt8)
    (seeds : SeedStream) :
    (ofSelection catalog build selection mask seeds).2 =
      seeds.skip (reached catalog build selection).length := by
  rw [ofSelection, request, reached]
  cases strings catalog build selection.secondary with
  | error => rfl
  | ok table => exact seeds_entries selection.inFlight 0 seeds

theorem reached_eq {selection : Selection} (well : selection.Of catalog build) :
    reached catalog build selection = takers (served catalog build selection.inFlight 0) := by
  rw [reached, strings_secondary well]

/-- A challenge that was built is that of its entries. -/
theorem exists_entries {selection : Selection} (well : selection.Of catalog build)
    {mask : UInt8} {seeds later : SeedStream} {c : Challenge}
    (built : ofSelection catalog build selection mask seeds = (.ok c, later)) :
    ∃ es, entries catalog build selection.inFlight 0 seeds = (.ok es, later) ∧
      c.inFlight = selection.inFlight ∧
      decode? mask ((catalog.found build selection.inFlight).map (·.kind.patternLength)) c.payload =
        some ⟨texts (catalog.found build selection.inFlight), es⟩ := by
  obtain ⟨-, es, rfl, describes, made⟩ := ofSelection_of_ok well built
  exact ⟨es, made, rfl, decode?_payload mask (text_fits well.defined) describes⟩

/-- **A client reads in a challenge the words that were taken for it**, in the order of the stream:
one for each of its module checks. -/
theorem shown_ofSelection {selection : Selection} (well : selection.Of catalog build)
    {mask : UInt8} {seeds later : SeedStream} {c : Challenge}
    (built : ofSelection catalog build selection mask seeds = (.ok c, later)) :
    reached catalog build selection = takers (catalog.found build c.inFlight) ∧
      shown catalog build mask c.inFlight c.payload =
        (reached catalog build selection).zip
          (seeds.words (reached catalog build selection).length) := by
  obtain ⟨es, made, ids, decoded⟩ := exists_entries well built
  obtain ⟨all, shows⟩ := shown_entries made
  rw [reached_eq well, shown, ids, decoded]
  exact ⟨congrArg takers all, shows⟩

end Challenge

end Attest
