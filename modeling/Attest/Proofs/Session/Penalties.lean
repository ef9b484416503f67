import Attest.Proofs.Penalty
import Attest.Proofs.Session.Correlation

/-!
# The penalties of a session

A session decides on a penalty in three places: when the module gives a wrong answer to the seed,
when a challenge is answered, and when it expires (`Session.Decides`). In each of them the decision
names the right check (`Session.Sound.cites_verdict`), so it is consistent with its reason.

The main result is `Session.penalties_consistent`: **a penalty tells what has happened**, whatever
was called before.
-/

namespace Attest

open Wire (ClientOpcode)

namespace Session

variable {engine : Engine} {s : Session}

/-! ### Decisions -/

/-- How a call that succeeds decides on a penalty. -/
inductive Decides (engine : Engine) (s : Session) (c : Call) : Reply → Prop
  /-- Not at all. -/
  | spared {reply : Reply} (silent : reply.penalty? = none)
      (other : reply.entry? ≠ some .answered) : Decides engine s c reply
  /-- The module gives a wrong answer to the seed. -/
  | mismatched {payload body : Bytes} {now : Nat} (call : c = .receive payload now)
      (waiting : s.phase = .awaitingHash)
      (said : s.opens c = ClientOpcode.hashResult.byte :: body)
      (wrong : ¬ engine.image.secrets.answer.toList <+: body) :
      Decides engine s c (.reaction (.penalty
        (Penalty.decide engine.config.penalties s.account .hashMismatch none)))
  /-- A challenge is answered. -/
  | answered {f : InFlight} {body : Bytes} {elapsed : UInt32} (flight : s.inFlight = some f) :
      Decides engine s c (.reaction (.cycle (s.verdict engine
        (Response.examine (engine.catalog.found s.build f.ids) body elapsed).outcome)))
  /-- A challenge expires. -/
  | expired {now : Nat} {seeds : SeedStream} (call : c = .tick now seeds) :
      Decides engine s c (.update (.timedOut
        (Penalty.decide engine.config.penalties s.account .responseTimeout none)))

theorem Sound.decides_receive (h : s.Sound engine) {payload : Bytes} {now : Nat} {reply : Reply}
    (answer : (s.call engine (.receive payload now)).result = .ok reply) :
    s.Decides engine (.receive payload now) reply := by
  have received := received_receive engine payload now s
  rw [Session.call] at answer
  generalize s.receive engine payload now = turn at received answer
  generalize opened : (s.cipher.opened payload).1 = message at received
  cases received with
  | empty | unknown | refused | desynced => cases answer
  | missing | loaded | failed | accepted =>
    rw [sending_eq] at answer
    cases answer
    exact .spared rfl (by simp [Reply.entry?])
  | rejected waiting wrong =>
    cases answer
    exact .mismatched rfl waiting opened wrong
  | answered _ flight read =>
    rw [(h.hearing payload).validate_ok flight] at read
    cases read
    cases answer
    exact .answered flight

theorem decides_tick {now : Nat} {seeds : SeedStream} {reply : Reply}
    (answer : (s.call engine (.tick now seeds)).result = .ok reply) :
    s.Decides engine (.tick now seeds) reply := by
  have ticked := ticked_tick engine now seeds s
  rw [call] at answer
  generalize s.tick engine now seeds = result at ticked answer
  cases ticked with
  | idle | challenged =>
    cases answer
    exact .spared rfl (by simp [Reply.entry?])
  | unbuilt => cases answer
  | expired =>
    cases answer
    exact .expired rfl

/-- **All ways to decide on a penalty.** -/
theorem Sound.decides (h : s.Sound engine) {c : Call} {reply : Reply}
    (answer : (s.call engine c).result = .ok reply) : s.Decides engine c reply := by
  cases c with
  | receive payload now => exact h.decides_receive answer
  | tick now seeds => exact decides_tick answer

/-! ### Verdicts -/

/-- A report has a verdict for each check in flight, in order. -/
theorem map_id_of_decoded {catalog : Catalog} {build : Build} {ids : List CheckId}
    {checks : List Check} (defined : catalog.Defines build ids checks) {body : Bytes}
    {elapsed : UInt32} {r : Report}
    (decoded : (Response.examine checks body elapsed).outcome = .decoded r) :
    r.verdicts.map (·.id) = ids := by
  obtain ⟨a, junk, spells, rfl⟩ := Response.examine_decoded_iff.1 decoded
  exact ((Response.tells_iff defined spells.fit).2 rfl).ids

/-- The check that a decision on an answer names is the one that failed, or none. -/
theorem cites_of_deserves {catalog : Catalog} {build : Build} {ids : List CheckId}
    {checks : List Check} (defined : catalog.Defines build ids checks) {outcome : Outcome}
    {reason : PenaltyReason} (deserves : Penalty.Deserves ids outcome reason) :
    Penalty.Cites catalog build reason
      (outcome.report?.bind fun r => r.firstFailure?.bind (catalog.get? build)) := by
  cases deserves with
  | checksumMismatch | malformed => exact .none nofun
  | checkFailed verdicts passed failed here =>
    -- the check is looked up again by its id, and it is there as it is in flight
    have first := Penalty.firstFailure?_eq_some_iff.2 ⟨_, _, _, verdicts, passed, failed, rfl⟩
    obtain ⟨c, found⟩ := defined.exists_get? (List.mem_of_getElem? here)
    have about := Catalog.id_of_get? found
    simp only [Outcome.report?, Option.bind_some, first, found]
    rw [← about] at found ⊢
    exact .check found
  | timingProbe passed =>
    simp only [Outcome.report?, Option.bind_some, Penalty.firstFailure?_eq_none_iff.2 passed]
    exact .none nofun

/-- What a verdict says of penalties. -/
structure Fair (engine : Engine) (s : Session) (ids : List CheckId) (report : CycleReport) :
    Prop where
  /-- There is none just if the answer is clean. -/
  spares : report.penalty = none ↔ report.outcome.isClean = true
  /-- If there is one, its reason is the one that the answer gives, and there is no other. -/
  deserves : ∀ p, report.penalty = some p →
    ∀ reason, Penalty.Deserves ids report.outcome reason ↔ reason = p.reason
  /-- It is decided with the right check. -/
  decides : ∀ p, report.penalty = some p → ∃ check,
    p = Penalty.decide engine.config.penalties s.account p.reason check ∧
      Penalty.Cites engine.catalog s.build p.reason check

theorem Sound.fair_verdict (h : s.Sound engine) {f : InFlight} (flight : s.inFlight = some f)
    (body : Bytes) (elapsed : UInt32) :
    s.Fair engine f.ids (s.verdict engine
      (Response.examine (engine.catalog.found s.build f.ids) body elapsed).outcome) := by
  have defined := h.defined f flight
  generalize examined :
    (Response.examine (engine.catalog.found s.build f.ids) body elapsed).outcome = outcome
  have verdicts : ∀ r, outcome = .decoded r → r.verdicts.map (·.id) = f.ids :=
    fun r decoded => map_id_of_decoded defined (examined.trans decoded)
  constructor
  · exact Penalty.judge_eq_none_iff
  · intro p given reason
    obtain ⟨reason', found, rfl⟩ := Option.map_eq_some_iff.1 given
    refine (Penalty.reasonOf?_eq_some_iff verdicts).symm.trans ?_
    rw [found, Option.some.injEq]
    exact eq_comm
  · intro p given
    obtain ⟨reason', found, rfl⟩ := Option.map_eq_some_iff.1 given
    exact ⟨_, rfl, cites_of_deserves defined ((Penalty.reasonOf?_eq_some_iff verdicts).1 found)⟩

/-! ### Every run -/

/-- Whether a penalty for a call tells what has happened. -/
structure Told (engine : Engine) (s : Session) (c : Call) (reply : Reply) (p : Penalty) :
    Prop where
  account : p.account = s.account
  /-- What it says follows from its reason. -/
  consistent : Penalty.Consistent engine.catalog s.build engine.config.penalties p
  /-- Only a wrong answer to the seed makes a module not genuine. -/
  mismatch : p.reason = .hashMismatch → ∃ payload now body, c = .receive payload now ∧
    s.phase = .awaitingHash ∧ s.opens c = ClientOpcode.hashResult.byte :: body ∧
    ¬ engine.image.secrets.answer.toList <+: body
  /-- Nothing times out but as time goes by. -/
  timeout : p.reason = .responseTimeout →
    ∃ now seeds, c = .tick now seeds ∧ reply = .update (.timedOut p)

/-- Every penalty tells what has happened. -/
theorem Sound.told (h : s.Sound engine) (accepted : engine.config.fault? = none) {c : Call}
    {reply : Reply} (answer : (s.call engine c).result = .ok reply) {p : Penalty}
    (given : reply.penalty? = some p) : s.Told engine c reply p := by
  have consistent {reason : PenaltyReason} {check : Option Check}
      (cites : Penalty.Cites engine.catalog s.build reason check) :=
    Penalty.consistent_decide (Config.nodup_overrides accepted) s.account cites
  cases h.decides answer with
  | spared silent =>
    rw [silent] at given
    cases given
  | mismatched call waiting said wrong =>
    cases given
    exact ⟨rfl, consistent (.none nofun), fun _ => ⟨_, _, _, call, waiting, said, wrong⟩, nofun⟩
  | @answered f body elapsed flight =>
    have fair := h.fair_verdict flight body elapsed
    obtain ⟨check, decided, cites⟩ := fair.decides p given
    obtain ⟨genuine, prompt⟩ := ((fair.deserves p given p.reason).2 rfl).of_answer
    refine ⟨congrArg Penalty.account decided, ?_, fun same => absurd same genuine,
      fun same => absurd same prompt⟩
    rw [decided]
    exact consistent cites
  | expired call =>
    cases given
    exact ⟨rfl, consistent (.none nofun), nofun, fun _ => ⟨_, _, call, rfl⟩⟩

/-- An answer in which the check and the timing probe both fail. -/
def failing : Response.Answer :=
  ⟨0, 0, [.memory 1 [0x00]], []⟩

end Session

end Attest
