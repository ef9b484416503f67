import Attest.Proofs.Catalog
import Attest.Proofs.Wire.Reading
import Attest.Response
import Mathlib.Data.List.Forall2
import Mathlib.Tactic.SplitIfs

/-!
# The grammar of answers

An answer as data, next to the reader of `Attest.Response`: `Entry` is what a client says of one
check, `Entry.Fits` tells which entries belong to which kind of check, and `Answer` is the whole,
with the bytes behind its last entry. `Spells` says that a body is an answer in its frame, followed
by bytes that no checksum covers.

* `Response.readAnswer_ok_iff`, `Response.readEntries_eq_iff` : the reader takes just the entries
  of the grammar, each in full, whether it passes or not;
* `Response.spells_unique` : a body is an answer to given checks in at most one way;
* `Response.validate_decoded_iff` : **validation accepts exactly the grammar**, and reports just
  what the entries say.
-/

namespace Attest

namespace Response

open Wire (Cursor Reader)
open Wire.Reader (bind_ok_iff pure_ok_iff byte_ok_iff raw_ok_iff word16_ok_iff word32_ok_iff
  short_ok_iff)

/-! ### Entries -/

/-- What a client says of one check. -/
inductive Entry where
  /-- The status of reading memory, and the bytes read. -/
  | memory (status : UInt8) (read : Bytes)
  /-- The outcome of a search. -/
  | search (answer : UInt8)
  /-- The status of hashing a file, and the digest. -/
  | file (status : UInt8) (digest : Bytes)
  /-- The text of a script global. -/
  | text (text : Bytes)
  /-- The status of a script global that could not be read. -/
  | silent (status : UInt8)
  deriving DecidableEq, Repr

namespace Entry

/-- The bytes of an entry. -/
def bytes : Entry → Bytes
  | memory status read => status :: read
  | search answer => [answer]
  | file status digest => status :: digest
  | text t => 0 :: UInt8.ofNat t.length :: t
  | silent status => [status]

/-- Whether a check looks for something that is not to be found. -/
def Searches : Check.Kind → Prop
  | .pageA .. | .pageB .. | .driver .. | .module .. => True
  | _ => False

/-- Which entries answer a check of which kind. -/
inductive Fits : Check.Kind → Entry → Prop
  /-- As many bytes as the check asks for follow the status, whatever it is. -/
  | memory {address : UInt32} {length status : UInt8} {expected read : Bytes}
      (h : read.length = length.toNat) :
      Fits (.memory address length expected) (.memory status read)
  /-- One byte, whatever it is. -/
  | search {kind : Check.Kind} {answer : UInt8} (h : Searches kind) : Fits kind (.search answer)
  /-- Twenty bytes follow the status, whatever it is. -/
  | mpq {path : String} {expected : Vector UInt8 20} {status : UInt8} {digest : Bytes}
      (h : digest.length = 20) : Fits (.mpq path expected) (.file status digest)
  /-- The text is behind a length byte. -/
  | text {global : String} {text : Bytes} (h : text.length ≤ 255) :
      Fits (.luaString global) (.text text)
  /-- Nothing follows a status that is not zero. -/
  | silent {global : String} {status : UInt8} (h : status ≠ 0) :
      Fits (.luaString global) (.silent status)

/-- Whether an entry is the one of an untampered client. -/
def passes : Check.Kind → Entry → Bool
  | .memory _ _ expected, memory status read => status = 0 ∧ read = expected
  | .mpq _ expected, file status digest => status = 0 ∧ digest = expected.toList
  | .luaString _, text _ => true
  | .luaString _, silent _ => false
  | _, search answer => answer = Wire.cleanSentinel
  | _, _ => false

/-- What of an entry is worth a note. -/
def note? : Check.Kind → Entry → Option Note
  | .memory _ _ expected, memory status read =>
    if status ≠ 0 then some (.status status)
    else if read ≠ expected then some (.bytes read) else none
  | .mpq _ _, file status _ => if status ≠ 0 then some (.status status) else none
  | .luaString _, text t => textNote? t
  | .luaString _, silent status => some (.status status)
  | _, _ => none

/-- The verdict on a check whose entry is this one. -/
def verdict (c : Check) (e : Entry) : Verdict :=
  ⟨c.id, c.kind.tag, e.passes c.kind, e.note? c.kind⟩

end Entry

theorem judgeMemory_eq (address : UInt32) (length : UInt8) (expected : Bytes) (status : UInt8)
    (read : Bytes) :
    judgeMemory expected status read =
      (Entry.passes (.memory address length expected) (.memory status read),
        Entry.note? (.memory address length expected) (.memory status read)) := by
  unfold judgeMemory Entry.passes Entry.note?
  split_ifs <;> simp_all

theorem judgeDigest_eq (path : String) (expected : Vector UInt8 20) (status : UInt8)
    (digest : Bytes) :
    judgeDigest expected.toList status digest =
      (Entry.passes (.mpq path expected) (.file status digest),
        Entry.note? (.mpq path expected) (.file status digest)) := by
  unfold judgeDigest Entry.passes Entry.note?
  split_ifs <;> simp_all

theorem search_of_fits {kind : Check.Kind} {e : Entry} (h : Entry.Searches kind)
    (fits : e.Fits kind) : ∃ answer, e = .search answer := by
  cases fits with
  | @search kind answer => exact ⟨answer, rfl⟩
  | _ => cases h

theorem judgeSearch_eq (kind : Check.Kind) (answer : UInt8) :
    (decide (answer = Wire.cleanSentinel), none) =
      (Entry.passes kind (.search answer), Entry.note? kind (.search answer)) := by
  cases kind <;> rfl

theorem readSearch_ok_iff {kind : Check.Kind} {v : Bool × Option Note} {c c' : Cursor}
    (h : Entry.Searches kind) :
    readSearch c = .ok v c' ↔
      ∃ e : Entry, e.Fits kind ∧ v = (e.passes kind, e.note? kind) ∧ c.Over c' e.bytes := by
  simp only [readSearch, bind_ok_iff, byte_ok_iff, pure_ok_iff]
  constructor
  · rintro ⟨answer, c₁, moved, rfl, rfl⟩
    exact ⟨.search answer, .search h, judgeSearch_eq kind answer, moved⟩
  · rintro ⟨e, fits, rfl, moved⟩
    obtain ⟨answer, rfl⟩ := search_of_fits h fits
    exact ⟨answer, c', moved, (judgeSearch_eq kind answer).symm, rfl⟩

/-- A status and bytes of a known number are read whatever the status is. -/
theorem statusRaw_ok_iff {α : Type} {n : Nat} {judge : UInt8 → Bytes → α} {v : α}
    {c c' : Cursor} :
    (do
      let status ← Reader.byte
      let read ← Reader.raw n
      return judge status read : Reader α) c = .ok v c' ↔
      ∃ status read, read.length = n ∧ v = judge status read ∧ c.Over c' (status :: read) := by
  simp only [bind_ok_iff, byte_ok_iff, raw_ok_iff, pure_ok_iff]
  constructor
  · rintro ⟨status, c₁, head, read, c₂, ⟨length, tail⟩, rfl, rfl⟩
    exact ⟨status, read, length, rfl, head.trans tail⟩
  · rintro ⟨status, read, length, rfl, moved⟩
    obtain ⟨c₁, head, tail⟩ := Cursor.over_append_iff (a := [status]).1 moved
    exact ⟨status, c₁, head, read, c', ⟨length, tail⟩, rfl, rfl⟩

/-- **The reader of an entry takes just the entries of the check's kind**, each in full. -/
theorem readAnswer_ok_iff {kind : Check.Kind} {v : Bool × Option Note} {c c' : Cursor} :
    readAnswer kind c = .ok v c' ↔
      ∃ e : Entry, e.Fits kind ∧ v = (e.passes kind, e.note? kind) ∧ c.Over c' e.bytes := by
  cases kind with
  | memory address length expected =>
    rw [readAnswer, statusRaw_ok_iff]
    constructor
    · rintro ⟨status, read, h, rfl, moved⟩
      exact ⟨.memory status read, .memory h, judgeMemory_eq address length expected status read,
        moved⟩
    · rintro ⟨e, fits, rfl, moved⟩
      cases fits with
      | @memory _ _ status _ read h =>
        exact ⟨status, read, h, (judgeMemory_eq address length expected status read).symm, moved⟩
      | search h => cases h
  | mpq path expected =>
    rw [readAnswer, statusRaw_ok_iff]
    constructor
    · rintro ⟨status, digest, h, rfl, moved⟩
      exact ⟨.file status digest, .mpq h, judgeDigest_eq path expected status digest, moved⟩
    · rintro ⟨e, fits, rfl, moved⟩
      cases fits with
      | @mpq _ _ status digest h =>
        exact ⟨status, digest, h, (judgeDigest_eq path expected status digest).symm, moved⟩
      | search h => cases h
  | luaString global =>
    -- the one kind whose entry does not have the same length always: its status tells which it has
    simp only [readAnswer, bind_ok_iff, byte_ok_iff]
    constructor
    · rintro ⟨status, c₁, head, h⟩
      by_cases zero : status = 0
      · simp only [zero, ↓reduceIte, bind_ok_iff, short_ok_iff, pure_ok_iff] at h head
        obtain ⟨text, c₂, ⟨bound, tail⟩, rfl, rfl⟩ := h
        exact ⟨.text text, .text bound, rfl, head.trans tail⟩
      · simp only [zero, ↓reduceIte, pure_ok_iff] at h
        obtain ⟨rfl, rfl⟩ := h
        exact ⟨.silent status, .silent zero, rfl, head⟩
    · rintro ⟨e, fits, rfl, moved⟩
      cases fits with
      | @text _ text bound =>
        obtain ⟨c₁, head, tail⟩ := Cursor.over_append_iff (a := [0]).1 moved
        refine ⟨0, c₁, head, ?_⟩
        simp only [↓reduceIte, bind_ok_iff, short_ok_iff, pure_ok_iff]
        exact ⟨text, c', ⟨bound, tail⟩, rfl, rfl⟩
      | @silent _ status nonzero =>
        refine ⟨status, c', moved, ?_⟩
        rw [if_neg nonzero, pure_ok_iff]
        exact ⟨rfl, rfl⟩
      | search h => cases h
  | pageA | pageB | driver | module => exact readSearch_ok_iff trivial

theorem readVerdict_ok_iff {check : Check} {v : Verdict} {c c' : Cursor} :
    readVerdict check c = .ok v c' ↔
      ∃ e : Entry, e.Fits check.kind ∧ v = e.verdict check ∧ c.Over c' e.bytes := by
  simp only [readVerdict, bind_ok_iff, readAnswer_ok_iff]
  constructor
  · rintro ⟨_, c₁, ⟨e, fits, rfl, moved⟩, h⟩
    obtain ⟨rfl, rfl⟩ := pure_ok_iff.1 h
    exact ⟨e, fits, rfl, moved⟩
  · rintro ⟨e, fits, rfl, moved⟩
    exact ⟨_, c', ⟨e, fits, rfl, moved⟩, pure_ok_iff.2 ⟨rfl, rfl⟩⟩

/-- Whether there is one entry for each check, in the order of the checks. -/
def Fit (checks : List Check) (entries : List Entry) : Prop :=
  List.Forall₂ (fun c e => Entry.Fits c.kind e) checks entries

/-- **The reader of a row of entries takes one for each check**, and nothing behind the last. -/
theorem readEntries_eq_iff {checks : List Check} {c : Cursor} {verdicts : List Verdict}
    {trailing : Nat} :
    readEntries c checks = ⟨verdicts, none, trailing⟩ ↔
      ∃ entries c', Fit checks entries ∧ verdicts = List.zipWith Entry.verdict checks entries ∧
        c.Over c' (entries.flatMap Entry.bytes) ∧ trailing = c'.remaining := by
  induction checks generalizing c verdicts with
  | nil =>
    rw [readEntries, Readout.mk.injEq]
    constructor
    · rintro ⟨rfl, -, rfl⟩
      exact ⟨[], c, .nil, rfl, .refl c, rfl⟩
    · rintro ⟨entries, c', ⟨⟩, rfl, moved, rfl⟩
      rw [Cursor.over_nil_iff.1 moved]
      exact ⟨rfl, rfl, rfl⟩
  | cons check rest ih =>
    -- the rest is read from where the first entry ends
    rw [readEntries]
    constructor
    · intro h
      cases hv : readVerdict check c with
      | error cause c₁ =>
        rw [hv] at h
        cases h
      | ok v c₁ =>
        simp only [hv, Readout.mk.injEq] at h
        obtain ⟨rfl, cut, rfl⟩ := h
        obtain ⟨e, fits, rfl, head⟩ := readVerdict_ok_iff.1 hv
        obtain ⟨entries, c', fit, hvs, tail, ht⟩ := (ih (c := c₁)).1 (by rw [← cut])
        refine ⟨e :: entries, c', .cons fits fit, ?_, head.trans tail, ht⟩
        rw [List.zipWith_cons_cons, hvs]
    · rintro ⟨entries, c', fit, rfl, moved, rfl⟩
      cases fit with
      | @cons _ e _ entries fits fit =>
        obtain ⟨c₁, head, tail⟩ := Cursor.over_append_iff.1 moved
        have hv := readVerdict_ok_iff.2 ⟨e, fits, rfl, head⟩
        have hrest := ih.2 ⟨entries, c', fit, rfl, tail, rfl⟩
        simp only [hv, hrest, List.zipWith_cons_cons]

/-! ### Answers -/

/-- What a client answers to a challenge. -/
structure Answer where
  /-- The outcome of the timing probe; zero if it failed. -/
  flag : UInt8
  /-- The tick count of the client. -/
  ticks : UInt32
  entries : List Entry
  /-- The bytes behind the last entry. -/
  surplus : Bytes
  deriving DecidableEq, Repr

namespace Answer

/-- The bytes that the checksum of an answer covers. -/
def covered (a : Answer) : Bytes :=
  a.flag :: (Bytes.le32 a.ticks ++ (a.entries.flatMap Entry.bytes ++ a.surplus))

/-- What validation makes of an answer. -/
def report (checks : List Check) (elapsed : UInt32) (a : Answer) : Report :=
  ⟨⟨a.flag ≠ 0, a.ticks, elapsed⟩, List.zipWith Entry.verdict checks a.entries,
    a.surplus.length⟩

end Answer

/-- Covered bytes behind their number and their checksum. -/
def frame (covered : Bytes) : Bytes :=
  Bytes.le16 (UInt16.ofNat covered.length) ++ (Bytes.le32 (checksum covered) ++ covered)

theorem readHeader_ok_iff {length : UInt16} {sum : UInt32} {c c' : Cursor} :
    readHeader c = .ok (length, sum) c' ↔ c.Over c' (Bytes.le16 length ++ Bytes.le32 sum) := by
  simp only [readHeader, bind_ok_iff, word16_ok_iff, word32_ok_iff, pure_ok_iff,
    Cursor.over_append_iff]
  constructor
  · rintro ⟨_, c₁, head, _, c₂, tail, h, rfl⟩
    obtain ⟨rfl, rfl⟩ := Prod.mk.inj h
    exact ⟨c₁, head, tail⟩
  · rintro ⟨c₁, head, tail⟩
    exact ⟨length, c₁, head, sum, c', tail, rfl, rfl⟩

theorem readTiming_ok_iff {elapsed : UInt32} {t : TimingSample} {c c' : Cursor} :
    readTiming elapsed c = .ok t c' ↔
      ∃ flag ticks, t = ⟨flag ≠ 0, ticks, elapsed⟩ ∧ c.Over c' (flag :: Bytes.le32 ticks) := by
  simp only [readTiming, bind_ok_iff, byte_ok_iff, word32_ok_iff, pure_ok_iff]
  constructor
  · rintro ⟨flag, c₁, head, ticks, c₂, tail, rfl, rfl⟩
    exact ⟨flag, ticks, by simp, head.trans tail⟩
  · rintro ⟨flag, ticks, rfl, moved⟩
    obtain ⟨c₁, head, tail⟩ := Cursor.over_append_iff (a := [flag]).1 moved
    exact ⟨flag, c₁, head, ticks, c', tail, by simp, rfl⟩

theorem examineCovered_decoded_iff {checks : List Check} {covered : Bytes} {elapsed : UInt32}
    {r : Report} :
    (examineCovered checks covered elapsed).outcome = .decoded r ↔
      ∃ a : Answer, Fit checks a.entries ∧ covered = a.covered ∧ r = a.report checks elapsed := by
  unfold examineCovered
  constructor
  · intro h
    cases ht : readTiming elapsed (Cursor.start covered) with
    | error cause c =>
      rw [ht] at h
      cases h
    | ok timing c =>
      obtain ⟨flag, ticks, rfl, head⟩ := readTiming_ok_iff.1 ht
      rw [ht] at h
      rcases hr : readEntries c checks with ⟨verdicts, _ | cut, trailing⟩
      · obtain ⟨entries, c', fit, rfl, tail, rfl⟩ := readEntries_eq_iff.1 hr
        simp only [hr, Examination.outcome, Outcome.decoded.injEq] at h
        refine ⟨⟨flag, ticks, entries, c'.rest⟩, fit, ?_, h.symm⟩
        have whole := Cursor.over_start (head.trans tail)
        simpa [Answer.covered] using whole
      · simp only [hr, Examination.outcome] at h
        cases h
  · rintro ⟨⟨flag, ticks, entries, surplus⟩, fit, rfl, rfl⟩
    -- the cursor behind the timing probe
    obtain ⟨c, head⟩ : ∃ c, (Cursor.start (Answer.covered ⟨flag, ticks, entries, surplus⟩)).Over c
        (flag :: Bytes.le32 ticks) := ⟨⟨5, entries.flatMap Entry.bytes ++ surplus⟩, rfl, rfl⟩
    have rest : c.rest = entries.flatMap Entry.bytes ++ surplus := by
      have whole := Cursor.over_start head
      simpa [Answer.covered] using whole.symm
    have tail : c.Over (c.skip (entries.flatMap Entry.bytes).length)
        (entries.flatMap Entry.bytes) := by
      refine ⟨?_, rfl⟩
      rw [Cursor.skip, rest, List.drop_left]
    have ht : readTiming elapsed (Cursor.start _) = _ :=
      readTiming_ok_iff.2 ⟨flag, ticks, rfl, head⟩
    have hr := readEntries_eq_iff.2 ⟨entries, _, fit, rfl, tail, rfl⟩
    simp only [ht, hr, Examination.outcome, Answer.report]
    simp [Cursor.remaining, Cursor.skip, rest]

/-- Whether a body is an answer to checks, followed by bytes that no checksum covers. -/
structure Spells (checks : List Check) (body : Bytes) (a : Answer) (junk : Bytes) : Prop where
  fit : Fit checks a.entries
  bound : a.covered.length ≤ 65535
  body_eq : body = frame a.covered ++ junk

theorem toNat_length {covered : Bytes} (h : covered.length ≤ 65535) :
    (UInt16.ofNat covered.length).toNat = covered.length := by
  rw [UInt16.toNat_ofNat']
  exact Nat.mod_eq_of_lt (by omega)

/-- The header of a frame leads to the covered bytes, and their checksum is right. -/
theorem examine_frame (checks : List Check) {covered : Bytes} (junk : Bytes)
    (bound : covered.length ≤ 65535) (elapsed : UInt32) :
    examine checks (frame covered ++ junk) elapsed = examineCovered checks covered elapsed := by
  have head : (Cursor.start (frame covered ++ junk)).Over ⟨6, covered ++ junk⟩
      (Bytes.le16 (UInt16.ofNat covered.length) ++ Bytes.le32 (checksum covered)) := by
    refine ⟨?_, rfl⟩
    simp [Cursor.start, frame]
  have hh := readHeader_ok_iff.2 head
  have long : ¬ (covered ++ junk).length < covered.length := by
    rw [List.length_append]
    omega
  simp only [examine, hh, Cursor.remaining, toNat_length bound, if_neg long, List.take_left,
    ↓reduceIte]

/-- The checksum of the three bytes `abc`. -/
example : checksum [0x61, 0x62, 0x63] = 0xDC8021B0 := by
  decide +kernel

/-- A body is read to its end just if it is an answer. -/
theorem examine_decoded_iff {checks : List Check} {body : Bytes} {elapsed : UInt32} {r : Report} :
    (examine checks body elapsed).outcome = .decoded r ↔
      ∃ a junk, Spells checks body a junk ∧ r = a.report checks elapsed := by
  constructor
  · intro h
    unfold examine at h
    cases hh : readHeader (Cursor.start body) with
    | error cause c =>
      rw [hh] at h
      cases h
    | ok header c =>
      obtain ⟨length, sum⟩ := header
      have head := Cursor.over_start (readHeader_ok_iff.1 hh)
      simp only [hh] at h
      split at h
      case isTrue => cases h
      case isFalse long =>
        split at h
        case isFalse => cases h
        case isTrue same =>
          obtain ⟨a, fit, covered, rfl⟩ := examineCovered_decoded_iff.1 h
          have size : a.covered.length = length.toNat := by
            rw [← covered, Cursor.length_take_rest (by omega)]
          have bound := length.toNat_lt
          refine ⟨a, c.rest.drop length.toNat, ⟨fit, by omega, ?_⟩, rfl⟩
          rw [frame, size, UInt16.ofNat_toNat, ← covered, same, head]
          simp
  · rintro ⟨a, junk, ⟨fit, bound, rfl⟩, rfl⟩
    rw [examine_frame checks junk bound]
    exact examineCovered_decoded_iff.2 ⟨a, fit, rfl, rfl⟩

/-! ### Uniqueness -/

/-- No entry of a kind is the beginning of another one. -/
theorem entry_unique {kind : Check.Kind} {e e' : Entry} {t t' : Bytes} (h : e.Fits kind)
    (h' : e'.Fits kind) (same : e.bytes ++ t = e'.bytes ++ t') : e = e' ∧ t = t' := by
  cases h with
  | @memory _ _ status _ read length =>
    cases h' with
    | @memory _ _ status' _ read' length' =>
      obtain ⟨rfl, rest⟩ := List.cons_eq_cons.1 same
      obtain ⟨rfl, rfl⟩ := List.append_inj rest (length.trans length'.symm)
      exact ⟨rfl, rfl⟩
    | search h => cases h
  | @search kind answer h =>
    obtain ⟨answer', rfl⟩ := search_of_fits h h'
    obtain ⟨rfl, rfl⟩ := List.cons_eq_cons.1 same
    exact ⟨rfl, rfl⟩
  | @mpq _ _ status digest length =>
    cases h' with
    | @mpq _ _ status' digest' length' =>
      obtain ⟨rfl, rest⟩ := List.cons_eq_cons.1 same
      obtain ⟨rfl, rfl⟩ := List.append_inj rest (length.trans length'.symm)
      exact ⟨rfl, rfl⟩
    | search h => cases h
  | @text _ text bound =>
    -- the first byte of a text is zero, and that of a silent entry is not
    cases h' with
    | @text _ text' bound' =>
      obtain ⟨size, rest⟩ := List.cons_eq_cons.1 (List.cons_eq_cons.1 same).2
      have length : text.length = text'.length := by
        rw [← Wire.Reader.ofNat_toNat_length bound, size, Wire.Reader.ofNat_toNat_length bound']
      obtain ⟨rfl, rfl⟩ := List.append_inj rest length
      exact ⟨rfl, rfl⟩
    | silent nonzero => exact absurd (List.cons_eq_cons.1 same).1.symm nonzero
    | search h => cases h
  | @silent _ status nonzero =>
    cases h' with
    | text => exact absurd (List.cons_eq_cons.1 same).1 nonzero
    | silent =>
      obtain ⟨rfl, rfl⟩ := List.cons_eq_cons.1 same
      exact ⟨rfl, rfl⟩
    | search h => cases h

theorem entries_unique {checks : List Check} {es es' : List Entry} {t t' : Bytes}
    (h : Fit checks es) (h' : Fit checks es')
    (same : es.flatMap Entry.bytes ++ t = es'.flatMap Entry.bytes ++ t') : es = es' ∧ t = t' := by
  induction h generalizing es' with
  | nil =>
    cases h'
    exact ⟨rfl, same⟩
  | cons fits _ ih =>
    cases h' with
    | cons fits' fit' =>
      simp only [List.flatMap_cons, List.append_assoc] at same
      obtain ⟨rfl, rest⟩ := entry_unique fits fits' same
      obtain ⟨rfl, rfl⟩ := ih fit' rest
      exact ⟨rfl, rfl⟩

theorem frame_unique {covered covered' junk junk' : Bytes} (h : covered.length ≤ 65535)
    (h' : covered'.length ≤ 65535) (same : frame covered ++ junk = frame covered' ++ junk') :
    covered = covered' ∧ junk = junk' := by
  simp only [frame, List.append_assoc] at same
  obtain ⟨length, rest⟩ := List.append_inj same (by simp)
  obtain ⟨-, rest⟩ := List.append_inj rest (by simp)
  have size : covered.length = covered'.length := by
    rw [← toNat_length h, Bytes.le16_injective length, toNat_length h']
  exact List.append_inj rest size

/-- A body is an answer in at most one way. -/
theorem spells_unique {checks : List Check} {body junk junk' : Bytes} {a b : Answer}
    (h : Spells checks body a junk) (h' : Spells checks body b junk') : a = b ∧ junk = junk' := by
  obtain ⟨covered, rfl⟩ := frame_unique h.bound h'.bound (h.body_eq.symm.trans h'.body_eq)
  obtain ⟨flag, ticks, es, surplus⟩ := a
  obtain ⟨flag', ticks', es', surplus'⟩ := b
  obtain ⟨rfl, rest⟩ := List.cons_eq_cons.1 covered
  obtain ⟨words, rest⟩ := List.append_inj rest (by simp)
  obtain rfl := Bytes.le32_injective words
  obtain ⟨rfl, rfl⟩ := entries_unique h.fit h'.fit rest
  exact ⟨rfl, rfl⟩

/-! ### Validation -/

theorem requireAll_of_defined {catalog : Catalog} {build : Build} {ids : List CheckId}
    {checks : List Check} (defined : catalog.Defines build ids checks) :
    requireAll catalog build ids = .ok checks := by
  induction defined with
  | nil => rfl
  | cons here _ ih =>
    rw [requireAll, Catalog.require_of_get? here, ih]
    rfl

/-- What a report tells of an answer to checks with these ids. -/
structure Tells (ids : List CheckId) (checks : List Check) (elapsed : UInt32) (a : Answer)
    (r : Report) : Prop where
  timing : r.timing = ⟨a.flag ≠ 0, a.ticks, elapsed⟩
  /-- One verdict for each check, with the check's tag and what is found of the entry. -/
  verdicts : r.verdicts = List.zipWith Entry.verdict checks a.entries
  ids : r.verdicts.map (·.id) = ids
  /-- The first failure is that of the earliest entry that does not pass. -/
  firstFailure : r.firstFailure? =
    ((checks.zip a.entries).find? fun p => !p.2.passes p.1.kind).map (·.1.id)
  trailing : r.trailing = a.surplus.length

theorem map_id_zipWith_verdict {checks : List Check} {entries : List Entry}
    (fit : Fit checks entries) :
    (List.zipWith Entry.verdict checks entries).map (·.id) = checks.map (·.id) := by
  induction fit with
  | nil => rfl
  | cons _ _ ih => rw [List.zipWith_cons_cons, List.map_cons, ih, List.map_cons, Entry.verdict]

theorem find?_zipWith_verdict (checks : List Check) (entries : List Entry) :
    ((List.zipWith Entry.verdict checks entries).find? (!·.passed)).map (·.id) =
      ((checks.zip entries).find? fun p => !p.2.passes p.1.kind).map (·.1.id) := by
  rw [← List.map_uncurry_zip_eq_zipWith, List.find?_map, Option.map_map]
  rfl

theorem tells_iff {catalog : Catalog} {build : Build} {ids : List CheckId}
    {checks : List Check} {elapsed : UInt32} {a : Answer} {r : Report}
    (defined : catalog.Defines build ids checks) (fit : Fit checks a.entries) :
    Tells ids checks elapsed a r ↔ r = a.report checks elapsed := by
  constructor
  · intro h
    obtain ⟨timing, verdicts, trailing⟩ := r
    obtain rfl : timing = _ := h.timing
    obtain rfl : verdicts = _ := h.verdicts
    obtain rfl : trailing = _ := h.trailing
    rfl
  · rintro rfl
    refine ⟨rfl, rfl, ?_, ?_, rfl⟩
    · rw [Answer.report, map_id_zipWith_verdict fit, defined.map_id]
    · rw [Report.firstFailure?_eq_find?]
      exact find?_zipWith_verdict _ _

/-- **Validation accepts just the answers.** If all checks in flight are defined, every body is
read, and it is found to be a report just if it spells an answer: a frame of covered bytes, and in
them the timing probe, an entry for each check and a surplus. The body spells one answer at most,
and the report tells what that answer says of each check. -/
theorem validate_decoded_iff {catalog : Catalog} {build : Build} {ids : List CheckId}
    {checks : List Check} (defined : catalog.Defines build ids checks)
    (body : Bytes) (elapsed : UInt32) :
    ∃ examination, validate catalog build ids body elapsed = .ok examination ∧
      (∀ r, examination.outcome = .decoded r ↔
        ∃ a junk, Spells checks body a junk ∧ Tells ids checks elapsed a r) ∧
      ∀ a b junk junk', Spells checks body a junk → Spells checks body b junk' →
        a = b ∧ junk = junk' := by
  refine ⟨examine checks body elapsed, ?_, fun r => ?_, fun a b junk junk' => spells_unique⟩
  · rw [validate, requireAll_of_defined defined]
    rfl
  · rw [examine_decoded_iff]
    constructor
    · rintro ⟨a, junk, spells, found⟩
      exact ⟨a, junk, spells, (tells_iff defined spells.fit).2 found⟩
    · rintro ⟨a, junk, spells, tells⟩
      exact ⟨a, junk, spells, (tells_iff defined spells.fit).1 tells⟩

/-- An answer to a module, a script and a memory check, of which the last fails. -/
def Answer.sample : Answer :=
  ⟨1, 99, [.search 0xE9, .text [0x4F, 0x72, 0x63], .memory 0 [0x74, 0x10]], [0xFF]⟩

theorem sample_answer_decoded :
    ∃ examination r,
      validate Catalog.sample 5875 [7, 5, 1] (frame Answer.sample.covered ++ [0, 0]) 40 =
        .ok examination ∧
      examination.outcome = .decoded r ∧ r.timing = ⟨true, 99, 40⟩ ∧
      r.verdicts.map (·.passed) = [true, true, false] ∧ r.firstFailure? = some 1 := by
  let checks := Catalog.sample.found 5875 [7, 5, 1]
  have defined : Catalog.sample.Defines 5875 [7, 5, 1] checks :=
    .cons rfl (.cons rfl (.cons rfl .nil))
  have fit : Fit checks Answer.sample.entries :=
    .cons (.search trivial) (.cons (.text (by decide)) (.cons (.memory rfl) .nil))
  obtain ⟨examination, read, decoded, -⟩ := validate_decoded_iff defined
    (frame Answer.sample.covered ++ [0, 0]) 40
  refine ⟨examination, Answer.sample.report checks 40, read, (decoded _).2 ?_, ?_⟩
  · exact ⟨Answer.sample, [0, 0], ⟨fit, by decide, rfl⟩, (tells_iff defined fit).2 rfl⟩
  · decide

end Response

end Attest
