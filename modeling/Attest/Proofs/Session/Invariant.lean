import Attest.Proofs.Challenge.Decoding
import Attest.Proofs.Response.Grammar
import Attest.Proofs.Session.Step

/-!
# What holds of every session

Between two calls a session keeps four things in order (`Session.Sound`): its stocks hold checks of
their own pools, the quotas are those of the configuration, the checks in flight are checks of the
catalog, and there are none in flight before the session is active. This holds after a start and
after every call (`Session.Sound.call`), whatever the client sends and whether the call fails.

With a quota that an index can count, it follows that a challenge that is due can be built
(`Session.Sound.nextChallenge_ok`).
-/

namespace Attest

namespace Session

/-- What holds of a session between two calls. -/
structure Sound (engine : Engine) (s : Session) : Prop where
  stocked : s.scheduler.Stocked engine.catalog s.build
  primaryQuota : s.scheduler.primaryQuota = engine.config.scheduling.primaryQuota
  secondaryQuota : s.scheduler.secondaryQuota = engine.config.scheduling.secondaryQuota
  defined : ∀ f, s.inFlight = some f →
    engine.catalog.Defines s.build f.ids (engine.catalog.found s.build f.ids)
  active : s.inFlight ≠ none → s.phase = .active

variable {engine : Engine}

theorem sound_initial (engine : Engine) (account : UInt32) (build : Build) (keys : Keys)
    (seed : UInt64) (now : Nat) : (initial engine account build keys seed now).Sound engine where
  stocked := Scheduler.stocked_start _ _
  primaryQuota := rfl
  secondaryQuota := rfl
  defined := nofun
  active h := absurd rfl h

/-- A session stays sound that draws nothing and drops the checks in flight, or keeps them and its
phase. -/
theorem Sound.congr {s s' : Session} (h : s.Sound engine) (build : s'.build = s.build)
    (scheduler : s'.scheduler = s.scheduler)
    (flight : s'.inFlight = none ∨ s'.inFlight = s.inFlight ∧ s'.phase = s.phase) :
    s'.Sound engine := by
  constructor
  · rw [build, scheduler]
    exact h.stocked
  · rw [scheduler]
    exact h.primaryQuota
  · rw [scheduler]
    exact h.secondaryQuota
  · intro f hf
    rcases flight with none | ⟨same, -⟩
    · rw [none] at hf
      cases hf
    · rw [build]
      exact h.defined f (same.symm.trans hf)
  · intro hf
    rcases flight with none | ⟨same, phase⟩
    · exact absurd none hf
    · rw [same] at hf
      rw [phase]
      exact h.active hf

/-- A session is sound from its start on. -/
theorem sound_of_start {account : UInt32} {build : Build} {secret : Bytes} {now : Nat}
    {seeds later : SeedStream} {wire : Bytes} {s : Session}
    (started : start engine account build secret now seeds = (.ok (wire, s), later)) :
    s.Sound engine := by
  obtain ⟨keys, -, -, rfl⟩ := start_eq_ok started
  have sound := sound_initial engine account build keys seeds.next64.1 now
  exact sound.congr rfl rfl (.inr ⟨rfl, rfl⟩)

theorem Sound.inFlight_eq_none {s : Session} (h : s.Sound engine) (idle : s.phase ≠ .active) :
    s.inFlight = none := by
  by_contra flight
  exact idle (h.active flight)

theorem Sound.hearing {s : Session} (h : s.Sound engine) (payload : Bytes) :
    (s.hearing payload).Sound engine :=
  h.congr rfl rfl (.inr ⟨rfl, rfl⟩)

theorem Sound.sending {s : Session} (h : s.Sound engine) (messages : List Bytes)
    (log : List Event) : (s.sending messages log).session.Sound engine := by
  rw [sending_eq]
  exact h.congr rfl rfl (.inr ⟨rfl, rfl⟩)

/-- Whatever a session makes of a message, it stays sound. -/
theorem Received.sound {now : Nat} {s : Session} {message : Bytes} {turn : Turn Reaction}
    (h : Received engine now s message turn) (sound : s.Sound engine) :
    turn.session.Sound engine := by
  cases h with
  | empty | unknown | refused => exact sound
  | missing => exact sound.sending _ _
  -- a phase of the handshake has nothing in flight, so the phase it moves to need not be active
  | loaded waiting =>
    have idle : s.inFlight = none := sound.inFlight_eq_none (by rw [waiting]; decide)
    have moved : Sound engine { s with phase := .awaitingHash } := sound.congr rfl rfl (.inl idle)
    exact moved.sending _ _
  | failed waiting =>
    have idle : s.inFlight = none := by
      refine sound.inFlight_eq_none ?_
      rcases waiting with waiting | waiting <;> (rw [waiting]; decide)
    have moved : Sound engine { s with phase := .awaitingModule } :=
      sound.congr rfl rfl (.inl idle)
    exact moved.sending _ _
  | accepted waiting =>
    have idle : s.inFlight = none := sound.inFlight_eq_none (by rw [waiting]; decide)
    have moved : (s.admitted engine now).Sound engine := sound.congr rfl rfl (.inl idle)
    exact moved.sending _ _
  | rejected waiting =>
    have idle : s.inFlight = none := sound.inFlight_eq_none (by rw [waiting]; decide)
    exact sound.congr rfl rfl (.inl idle)
  | answered | desynced => exact sound.congr rfl rfl (.inl rfl)

theorem Sound.drawn {s : Session} (h : s.Sound engine) (idle : s.inFlight = none) :
    (s.drawn engine).Sound engine where
  stocked := h.stocked.nextCycle
  primaryQuota := h.primaryQuota
  secondaryQuota := h.secondaryQuota
  defined f hf := by
    have := idle.symm.trans hf
    cases this
  active hf := absurd idle hf

/-- What a cycle draws is a selection of the catalog. -/
theorem Sound.selection_of {s : Session} (h : s.Sound engine) :
    (s.selection engine).Of engine.catalog s.build :=
  Scheduler.nextCycle_of h.stocked

theorem Sound.length_primary_le {s : Session} (h : s.Sound engine) :
    (s.selection engine).primary.length ≤ engine.config.scheduling.primaryQuota := by
  have drawn := Scheduler.length_primary_le engine.catalog s.build s.scheduler
  rwa [h.primaryQuota] at drawn

theorem Sound.length_secondary_le {s : Session} (h : s.Sound engine) :
    (s.selection engine).secondary.length ≤ engine.config.scheduling.secondaryQuota := by
  have drawn := Scheduler.length_secondary_le engine.catalog s.build s.scheduler
  rwa [h.secondaryQuota] at drawn

theorem Sound.length_inFlight_le {s : Session} (h : s.Sound engine) :
    (s.selection engine).inFlight.length ≤
      engine.config.scheduling.primaryQuota + engine.config.scheduling.secondaryQuota := by
  rw [Selection.inFlight, List.length_append]
  exact Nat.add_le_add h.length_primary_le h.length_secondary_le

/-- Whatever is due as time goes by, a session stays sound. -/
theorem Ticked.sound {now : Nat} {seeds : SeedStream} {s : Session}
    {result : Turn Update × SeedStream} (h : Ticked engine now seeds s result)
    (sound : s.Sound engine) : result.1.session.Sound engine := by
  cases h with
  | idle => exact sound
  | expired => exact sound.congr rfl rfl (.inl rfl)
  | @challenged c later due built =>
    have drawn := sound.drawn due.2.1
    obtain ⟨-, es, rfl, -⟩ := Challenge.ofSelection_of_ok sound.selection_of built
    refine ⟨drawn.stocked, drawn.primaryQuota, drawn.secondaryQuota, ?_, fun _ => due.1⟩
    rintro f ⟨⟩
    exact sound.selection_of.defined
  | unbuilt due => exact sound.drawn due.2.1

/-- **A session stays sound** whatever is called. -/
theorem Sound.call {s : Session} (h : s.Sound engine) (c : Call) :
    (s.call engine c).session.Sound engine := by
  cases c with
  | receive payload now => exact (received_receive engine payload now s).sound (h.hearing payload)
  | tick now seeds => exact (ticked_tick engine now seeds s).sound h

/-- The checks in flight are checks of the catalog, so their answer is always read. -/
theorem Sound.validate_ok {s : Session} (h : s.Sound engine) {f : InFlight}
    (flight : s.inFlight = some f) (body : Bytes) (elapsed : UInt32) :
    Response.validate engine.catalog s.build f.ids body elapsed =
      .ok (Response.examine (engine.catalog.found s.build f.ids) body elapsed) := by
  rw [Response.validate, Response.requireAll_of_defined (h.defined f flight)]
  rfl

theorem Received.client {now : Nat} {s : Session} {message : Bytes} {turn : Turn Reaction}
    (h : Received engine now s message turn) :
    turn.session.account = s.account ∧ turn.session.build = s.build := by
  cases h with
  | missing | loaded | failed =>
    rw [sending_eq]
    exact ⟨rfl, rfl⟩
  | accepted =>
    rw [sending_eq, admitted]
    exact ⟨rfl, rfl⟩
  | _ => exact ⟨rfl, rfl⟩

theorem Ticked.client {now : Nat} {seeds : SeedStream} {s : Session}
    {result : Turn Update × SeedStream} (h : Ticked engine now seeds s result) :
    result.1.session.account = s.account ∧ result.1.session.build = s.build := by
  cases h <;> exact ⟨rfl, rfl⟩

/-- No call changes the account or the build. -/
theorem client_call (engine : Engine) (s : Session) (c : Call) :
    (s.call engine c).session.account = s.account ∧ (s.call engine c).session.build = s.build := by
  cases c with
  | receive payload now => exact (received_receive engine payload now s).client
  | tick now seeds => exact (ticked_tick engine now seeds s).client

theorem build_call (engine : Engine) (s : Session) (c : Call) :
    (s.call engine c).session.build = s.build :=
  (client_call engine s c).2

theorem build_after (engine : Engine) (s : Session) (calls : List Call) :
    (s.after engine calls).build = s.build := by
  induction calls generalizing s with
  | nil => rfl
  | cons c rest ih => exact (ih (s.call engine c).session).trans (build_call engine s c)

/-- Nothing is drawn for a payload. -/
theorem scheduler_receive (engine : Engine) (s : Session) (payload : Bytes) (now : Nat) :
    (s.call engine (.receive payload now)).session.scheduler = s.scheduler := by
  have received := received_receive engine payload now s
  rw [call, Turn.map_session]
  generalize s.receive engine payload now = turn at received
  generalize (s.cipher.opened payload).1 = message at received
  cases received with
  | missing | loaded | failed => rw [sending_eq]; rfl
  | accepted => rw [sending_eq, admitted]; rfl
  | _ => rfl

/-- A challenge that is due can be built, if the quota is one that an index can count. -/
theorem Sound.nextChallenge_ok {s : Session} (h : s.Sound engine)
    (quota : engine.config.scheduling.secondaryQuota ≤ 255) (seeds : SeedStream) :
    ∃ c later, s.nextChallenge engine seeds = (.ok c, later) := by
  have few : (s.selection engine).secondary.length ≤ 255 :=
    Nat.le_trans h.length_secondary_le quota
  have room := Nat.le_trans (Challenge.length_texts_le h.selection_of) few
  obtain ⟨es, later, built, -⟩ :=
    Challenge.ofSelection_ok h.selection_of s.keys.tagMask seeds room
  exact ⟨_, later, built⟩

/-- As time goes by, no call on a sound session fails then, and a challenge goes out just if it is
due. -/
theorem Sound.tick_ok {s : Session} (h : s.Sound engine)
    (quota : engine.config.scheduling.secondaryQuota ≤ 255) (now : Nat) (seeds : SeedStream) :
    ∃ u, (s.tick engine now seeds).1.result = .ok u ∧
      ((∃ wire, u = .challenge wire) ↔ s.Due engine now) := by
  have ticked := ticked_tick engine now seeds s
  generalize s.tick engine now seeds = result at ticked
  cases ticked with
  | idle quiet => exact ⟨.idle, rfl, by simp [quiet]⟩
  | expired late => exact ⟨_, rfl, by simp [not_due_of_expired late]⟩
  | challenged due => exact ⟨_, rfl, by simp [due]⟩
  | unbuilt _ broken =>
    obtain ⟨c, later, built⟩ := h.nextChallenge_ok quota seeds
    rw [built] at broken
    cases broken

/-- The next challenge is about the checks that are drawn. -/
theorem Sound.exists_nextChallenge {s : Session} (h : s.Sound engine)
    (quota : engine.config.scheduling.secondaryQuota ≤ 255) (seeds : SeedStream) :
    ∃ c later, s.nextChallenge engine seeds = (.ok c, later) ∧
      c.inFlight = (s.selection engine).inFlight := by
  obtain ⟨c, later, built⟩ := h.nextChallenge_ok quota seeds
  obtain ⟨-, es, rfl, -⟩ := Challenge.ofSelection_of_ok h.selection_of built
  exact ⟨_, later, built, rfl⟩

/-- A challenge that cannot be built has too many strings. -/
theorem Sound.nextChallenge_error {s : Session} (h : s.Sound engine) {seeds later : SeedStream}
    {fault : Fault} (broken : s.nextChallenge engine seeds = (.error fault, later)) :
    fault = .config .tooManyStrings := by
  by_cases room : (Challenge.texts
      (engine.catalog.found s.build (s.selection engine).inFlight)).length ≤ 255
  · obtain ⟨es, later', built, -⟩ :=
      Challenge.ofSelection_ok h.selection_of s.keys.tagMask seeds room
    rw [nextChallenge, built] at broken
    cases broken
  · obtain ⟨later', same⟩ :=
      Challenge.ofSelection_error h.selection_of s.keys.tagMask seeds (by omega)
    rw [nextChallenge, same] at broken
    cases broken
    rfl

/-- A challenge that is built asks what its checks ask. -/
theorem Sound.nextChallenge_asks {s : Session} (h : s.Sound engine) {seeds later : SeedStream}
    {c : Challenge} (built : s.nextChallenge engine seeds = (.ok c, later)) :
    Challenge.Asks engine.catalog s.build s.keys.tagMask c.inFlight c.payload :=
  Challenge.asks_of_ok h.selection_of built

end Session

end Attest
