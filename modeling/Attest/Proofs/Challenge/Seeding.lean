import Attest.Proofs.Challenge.Layout

/-!
# Seeds in challenges

The seeds that a challenge uses up show in the bodies of its module checks, which are a seed and a
digest each, and nowhere else. `Challenge.moduleBodies` tells where these bodies stand; it reads the
checks only, so no seed can move them.

* `Challenge.blank_entries` : but for these bodies, the entries do not depend on the seeds;
* `Challenge.twins_ofSelection` : **challenges for the same selection from different seeds are
  twins**: both fail alike, or they carry the same checks, are of the same length, and differ in the
  bodies of module checks only.
-/

namespace Attest

namespace Challenge

open Wire (Field)

/-! ### Bodies -/

/-- The name of the module that a check of a kind is about, if it is about one. -/
def moduleName? : Check.Kind → Option String
  | .module name => some name
  | _ => none

/-- How many bytes the entry for a check of a kind has. -/
def entryLength : Check.Kind → Nat
  | .memory .. => 7
  | .pageA pattern .. => pattern.length + 6
  | .pageB pattern .. => pattern.length + 6
  | .mpq .. => 2
  | .luaString .. => 2
  | .driver pattern .. => pattern.length + 2
  | .module .. => 25

/-- The 24 bytes of a module check that its seed decides. -/
structure Body where
  /-- How many bytes of the payload stand in front of them. -/
  place : Nat
  /-- The name of the module. -/
  name : String
  deriving DecidableEq, Repr

/-- The bodies in the entries for checks, where the first entry stands behind `start` bytes. -/
def bodiesFrom (start : Nat) : List Check → List Body
  | [] => []
  | c :: rest =>
    ((moduleName? c.kind).map fun name => ⟨start + 1, name⟩).toList ++
      bodiesFrom (start + entryLength c.kind) rest

/-- The bodies in the payload for checks. In front of the entries there are the opcode, the strings
with the byte that ends them, and the timing probe. -/
def moduleBodies (checks : List Check) : List Body :=
  bodiesFrom (1 + (Field.encodeAll ((texts checks).map .short)).length + 2) checks

/-- Whether bytes hold a body: a seed and the digest of the module's name under it. -/
def Body.In (b : Body) (bytes : Bytes) : Prop :=
  ∃ seed, (bytes.drop b.place).take 24 =
    Bytes.le32 seed ++ (moduleDigest seed (Bytes.ofString b.name)).toList

/-- Whether two byte strings, which stand behind `start` other bytes, are the same outside these
bodies. -/
structure SameOutside (bodies : List Body) (start : Nat) (x y : Bytes) : Prop where
  length : x.length = y.length
  same : ∀ i, (∀ b ∈ bodies, start + i < b.place ∨ b.place + 24 ≤ start + i) → x[i]? = y[i]?

namespace SameOutside

variable {bodies more : List Body} {start : Nat} {x x' y y' z : Bytes}

theorem refl (bodies : List Body) (start : Nat) (x : Bytes) : SameOutside bodies start x x :=
  ⟨rfl, fun _ _ => rfl⟩

theorem symm (h : SameOutside bodies start x y) : SameOutside bodies start y x :=
  ⟨h.length.symm, fun i out => (h.same i out).symm⟩

theorem trans (h : SameOutside bodies start x y) (h' : SameOutside bodies start y z) :
    SameOutside bodies start x z :=
  ⟨h.length.trans h'.length, fun i out => (h.same i out).trans (h'.same i out)⟩

theorem mono (h : SameOutside bodies start x y) (sub : bodies ⊆ more) :
    SameOutside more start x y :=
  ⟨h.length, fun i out => h.same i fun b hb => out b (sub hb)⟩

theorem append (h : SameOutside bodies start x x')
    (h' : SameOutside bodies (start + x.length) y y') :
    SameOutside bodies start (x ++ y) (x' ++ y') := by
  constructor
  · simp [h.length, h'.length]
  · intro i out
    by_cases front : i < x.length
    · have front' : i < x'.length := h.length ▸ front
      rw [List.getElem?_append_left front, List.getElem?_append_left front']
      exact h.same i out
    · have behind : x.length ≤ i := by omega
      have behind' : x'.length ≤ i := h.length ▸ behind
      rw [List.getElem?_append_right behind, List.getElem?_append_right behind', ← h.length]
      refine h'.same _ ?_
      intro b hb
      have here := out b hb
      omega

/-- All of a body may differ. -/
theorem body {b : Body} (mem : b ∈ bodies) (hx : x.length = 24) (hy : y.length = 24) :
    SameOutside bodies b.place x y := by
  refine ⟨hx.trans hy.symm, ?_⟩
  intro i out
  have here := out b mem
  -- outside the body there is nothing
  rw [List.getElem?_eq_none (by omega), List.getElem?_eq_none (by omega)]

end SameOutside

/-! ### Entries without seeds -/

/-- An entry that does not tell its seed. -/
def Entry.blank : Entry → Entry
  | .module _ _ => .module 0 (.replicate 20 0)
  | e => e

theorem blank_entryOf? (kind : Check.Kind) (used : Nat) (seeds seeds' : SeedStream) :
    (entryOf? kind used seeds).map (fun found => (found.1.blank, found.2.1)) =
      (entryOf? kind used seeds').map fun found => (found.1.blank, found.2.1) := by
  cases kind <;> simp [entryOf?, Entry.blank, Function.comp_def]

/-- But for their seeds, entries do not depend on the seeds. -/
theorem blank_entries (catalog : Catalog) (build : Build) (ids : List CheckId) (used : Nat)
    (seeds seeds' : SeedStream) :
    (entries catalog build ids used seeds).1.map (List.map Entry.blank) =
      (entries catalog build ids used seeds').1.map (List.map Entry.blank) := by
  -- the seeds that an entry leaves differ, so both streams are general
  induction ids generalizing used seeds seeds' with
  | nil => rfl
  | cons id rest ih =>
    rw [entries, entries]
    cases catalog.require build id with
    | error => rfl
    | ok c =>
      have same := blank_entryOf? c.kind used seeds seeds'
      rcases entry : entryOf? c.kind used seeds with _ | ⟨e, n, middle⟩
      · rw [entry, Option.map_none, eq_comm, Option.map_eq_none_iff] at same
        simp only [entry, same]
      · rw [entry, Option.map_some, eq_comm, Option.map_eq_some_iff] at same
        obtain ⟨⟨e', n', middle'⟩, entry', blank⟩ := same
        obtain ⟨blank, rfl⟩ := Prod.mk.inj blank
        simp only [entry, entry']
        have later := ih n' middle middle'
        revert later
        cases (entries catalog build rest n' middle).1 <;>
          cases (entries catalog build rest n' middle').1 <;>
          simp [Except.map, blank]

/-! ### Places of bodies -/

section Places

variable {table : List Bytes} {kind : Check.Kind} {e : Entry} {checks : List Check}
  {es : List Entry}

theorem length_encode (mask : UInt8) (h : Entry.Describes table kind e) :
    (Field.encodeAll (e.maskedFields mask)).length = entryLength kind := by
  cases h <;>
    simp [Entry.maskedFields, Entry.fields, Field.encode, entryLength, Bytes.length_le32]

theorem blank_eq_self (h : Entry.Describes table kind e) (plain : moduleName? kind = none) :
    e.blank = e := by
  cases h with
  | module => cases plain
  | _ => rfl

/-- The entry for a check that is about a module is a tag and a body. -/
theorem encode_module {name : String} (mask : UInt8) (h : Entry.Describes table kind e)
    (about : moduleName? kind = some name) :
    ∃ tag seed blank,
      Field.encodeAll (e.maskedFields mask) =
        tag :: (Bytes.le32 seed ++ (moduleDigest seed (Bytes.ofString name)).toList) ∧
      Field.encodeAll (e.blank.maskedFields mask) = tag :: blank ∧ blank.length = 24 := by
  cases h with
  | @module _ seed =>
    cases about
    refine ⟨Wire.Tag.module.masked mask, seed,
      Bytes.le32 0 ++ (Vector.replicate 20 (0 : UInt8)).toList, ?_, ?_, ?_⟩
    · simp [Entry.maskedFields, Entry.fields, Entry.tag, Field.encode, moduleDigest]
    · simp [Entry.blank, Entry.maskedFields, Entry.fields, Entry.tag, Field.encode]
    · simp [Bytes.length_le32]
  | _ => cases about

theorem length_body (seed : UInt32) (name : String) :
    (Bytes.le32 seed ++ (moduleDigest seed (Bytes.ofString name)).toList).length = 24 := by
  simp [Bytes.length_le32]

/-- Outside the bodies, entries are what they are without their seeds. -/
theorem sameOutside_blank (mask : UInt8) (start : Nat)
    (h : List.Forall₂ (fun c e => Entry.Describes table c.kind e) checks es) :
    SameOutside (bodiesFrom start checks) start
      (Field.encodeAll (es.flatMap (Entry.maskedFields mask)))
      (Field.encodeAll ((es.map Entry.blank).flatMap (Entry.maskedFields mask))) := by
  -- each entry moves those behind it by its own length, so the start is general
  induction h generalizing start with
  | nil => exact .refl _ _ _
  | @cons c e checks es here _ ih =>
    simp only [List.map_cons, List.flatMap_cons, Field.encodeAll_append]
    refine .append ?_ ?_
    · cases about : moduleName? c.kind with
      | none =>
        rw [blank_eq_self here about]
        exact .refl _ _ _
      | some name =>
        obtain ⟨tag, seed, blank, encoded, encoded', length⟩ := encode_module mask here about
        have mem : ⟨start + 1, name⟩ ∈ bodiesFrom start (c :: checks) := by
          simp [bodiesFrom, about]
        rw [encoded, encoded']
        exact (SameOutside.refl _ start [tag]).append
          (SameOutside.body mem (length_body seed name) length)
    · rw [length_encode mask here]
      exact (ih _).mono (List.subset_append_right _ _)

/-- At the place of each body there is one. -/
theorem body_in (mask : UInt8) (front back : Bytes)
    (h : List.Forall₂ (fun c e => Entry.Describes table c.kind e) checks es) :
    ∀ b ∈ bodiesFrom front.length checks,
      b.In (front ++ (Field.encodeAll (es.flatMap (Entry.maskedFields mask)) ++ back)) := by
  induction h generalizing front with
  | nil =>
    intro b hb
    exact absurd hb List.not_mem_nil
  | @cons c e checks es here _ ih =>
    intro b hb
    rw [List.flatMap_cons, Field.encodeAll_append, List.append_assoc]
    rcases List.mem_append.1 hb with own | later
    · obtain ⟨name, about, rfl⟩ : ∃ name, moduleName? c.kind = some name ∧
          ⟨front.length + 1, name⟩ = b := by simpa using own
      obtain ⟨tag, seed, blank, encoded, -⟩ := encode_module mask here about
      refine ⟨seed, ?_⟩
      rw [encoded, List.drop_append, List.drop_eq_nil_of_le (by simp), List.nil_append,
        Nat.add_sub_cancel_left, List.cons_append, List.drop_succ_cons, List.drop_zero,
        List.take_left' (length_body seed name)]
    · have moved := ih (front ++ Field.encodeAll (e.maskedFields mask)) b
      rw [List.length_append, length_encode mask here, List.append_assoc] at moved
      exact moved later

end Places

/-! ### Twins -/

/-- Whether two payloads for checks are the same but for the seeds of module checks. -/
structure Twins (checks : List Check) (p q : Bytes) : Prop where
  length : p.length = q.length
  same : ∀ i, (∀ b ∈ moduleBodies checks, i < b.place ∨ b.place + 24 ≤ i) → p[i]? = q[i]?
  bodies : ∀ b ∈ moduleBodies checks, b.In p ∧ b.In q

variable {table : List Bytes} {checks : List Check} {es es' : List Entry}

/-- What stands in front of the entries. -/
def front (mask : UInt8) (table : List Bytes) : Bytes :=
  Wire.ServerOpcode.checksRequest.byte ::
    (Field.encodeAll (table.map .short) ++ [Wire.stringsEnd, Wire.Tag.timing.masked mask])

theorem length_front (mask : UInt8) (table : List Bytes) :
    (front mask table).length = 1 + (Field.encodeAll (table.map .short)).length + 2 := by
  simp [front]
  omega

theorem payload_eq (mask : UInt8) (r : Request) :
    r.payload mask = front mask r.strings ++
      (Field.encodeAll (r.entries.flatMap (Entry.maskedFields mask)) ++ [mask]) := by
  simp [Request.payload, Request.fields, front, Field.encode]

/-- Payloads are twins whose entries are the same but for their seeds. -/
theorem twins_payload (mask : UInt8)
    (h : List.Forall₂ (fun c e => Entry.Describes (texts checks) c.kind e) checks es)
    (h' : List.Forall₂ (fun c e => Entry.Describes (texts checks) c.kind e) checks es')
    (blank : es.map Entry.blank = es'.map Entry.blank) :
    Twins checks (Request.payload mask ⟨texts checks, es⟩)
      (Request.payload mask ⟨texts checks, es'⟩) := by
  have start := length_front mask (texts checks)
  have entries : SameOutside (moduleBodies checks) (front mask (texts checks)).length
      (Field.encodeAll (es.flatMap (Entry.maskedFields mask)))
      (Field.encodeAll (es'.flatMap (Entry.maskedFields mask))) := by
    rw [moduleBodies, ← start]
    refine (sameOutside_blank mask _ h).trans ?_
    rw [blank]
    exact (sameOutside_blank mask _ h').symm
  rw [← Nat.zero_add (front mask (texts checks)).length] at entries
  have all := (SameOutside.refl (moduleBodies checks) 0 (front mask (texts checks))).append
    (entries.append (.refl _ _ [mask]))
  rw [payload_eq, payload_eq]
  refine ⟨all.length, ?_, ?_⟩
  · intro i out
    exact all.same i (by simpa using out)
  · intro b hb
    rw [moduleBodies, ← start] at hb
    exact ⟨body_in mask _ _ h b hb, body_in mask _ _ h' b hb⟩

variable {catalog : Catalog} {build : Build}

/-- **Challenges for the same selection from different seeds are twins.** Both fail alike, or they
carry the same checks, and their payloads are the same but for the seeds of module checks. -/
theorem twins_ofSelection {selection : Selection} (well : selection.Of catalog build)
    (mask : UInt8) (seeds seeds' : SeedStream) :
    (∃ fault, (ofSelection catalog build selection mask seeds).1 = .error fault ∧
      (ofSelection catalog build selection mask seeds').1 = .error fault) ∨
    ∃ p p', (ofSelection catalog build selection mask seeds).1 = .ok ⟨p, selection.inFlight⟩ ∧
      (ofSelection catalog build selection mask seeds').1 = .ok ⟨p', selection.inFlight⟩ ∧
      Twins (catalog.found build selection.inFlight) p p' := by
  by_cases room : (texts (catalog.found build selection.inFlight)).length ≤ 255
  · obtain ⟨es, later, built, describes⟩ := entries_ok well.defined [] seeds room
    obtain ⟨es', later', built', describes'⟩ := entries_ok well.defined [] seeds' room
    have blank := blank_entries catalog build selection.inFlight 0 seeds seeds'
    rw [List.length_nil] at built built'
    rw [built, built'] at blank
    refine .inr ⟨_, _, ?_, ?_, twins_payload mask describes describes' (Except.ok.inj blank)⟩
    · rw [ofSelection_of_entries well mask built]
    · rw [ofSelection_of_entries well mask built']
  · obtain ⟨later, broken⟩ := ofSelection_error well mask seeds (by omega)
    obtain ⟨later', broken'⟩ := ofSelection_error well mask seeds' (by omega)
    exact .inl ⟨_, by rw [broken], by rw [broken']⟩

end Challenge

end Attest
