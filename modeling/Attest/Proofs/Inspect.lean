import Attest.Inspect
import Attest.Proofs.Session.Correlation

/-!
# Challenges never fail

A challenge fails to be built only if an index cannot tell its strings apart. Only secondary checks
have strings, so a secondary quota of at most 255 rules this out, and a configuration that can be
used has one. `Inspect.challenges_never_fail` says so of the sessions and of the trial challenge of
the command line tool; the tool then ends as it does if no challenge is tried.

Inspections are compared by how they end (`Inspect.SameEnd`), for any way to read files.
-/

namespace Attest

/-- A configuration that is read can be used. -/
theorem Config.fault?_of_ofText {text : String} {config : Config}
    (read : Config.ofText text = .ok config) : config.fault? = none := by
  unfold ofText at read
  split at read
  case h_1 found _ =>
    unfold validated at read
    split at read
    case h_1 sound =>
      cases read
      exact sound
    case h_2 => cases read
  case h_2 => cases read

namespace Inspect

/-! ### Trials -/

/-- A trial challenge can be built, if the quota is one that an index can count. -/
theorem exists_trialChallenge (catalog : Catalog) {config : Config} (build : Build)
    (quota : config.scheduling.secondaryQuota ≤ 255) (seeds : SeedStream) :
    ∃ c, trialChallenge catalog config build seeds = .ok c := by
  have stocked : (Scheduler.start config.scheduling seeds.next64.1).Stocked catalog build :=
    Scheduler.stocked_start _ _
  have few := Scheduler.length_secondary_le catalog build
    (Scheduler.start config.scheduling seeds.next64.1)
  have well := Scheduler.nextCycle_of stocked
  have room := Nat.le_trans (Challenge.length_texts_le well) (Nat.le_trans few quota)
  obtain ⟨es, later, built, -⟩ := Challenge.ofSelection_ok well 0 seeds.next64.2 room
  exact ⟨_, congrArg Prod.fst built⟩

/-! ### Ends -/

variable {m : Type → Type} [Monad m] {α β : Type}

/-- Whether two inspections end alike, whatever was printed before. -/
def SameEnd (x y : Printing m α) : Prop :=
  ∀ lines, Prod.fst <$> x.run.run lines = Prod.fst <$> y.run.run lines

theorem SameEnd.refl (x : Printing m α) : SameEnd x x :=
  fun _ => rfl

theorem run_bind (x : Printing m α) (f : α → Printing m β) (lines : List String) :
    (x >>= f).run.run lines = x.run.run lines >>= fun (result, later) =>
      match result with
      | .ok a => (f a).run.run later
      | .error fault => pure (.error fault, later) := by
  rw [ExceptT.run_bind, StateT.run_bind]
  refine bind_congr fun (result, later) => ?_
  cases result <;> rfl

theorem run_attempt (x : ExceptT Fault m α) (lines : List String) :
    (attempt x).run.run lines = x.run >>= fun result => pure (result, lines) := rfl

variable [LawfulMonad m]

theorem SameEnd.bind {x : Printing m α} {f g : α → Printing m β}
    (h : ∀ a, SameEnd (f a) (g a)) : SameEnd (x >>= f) (x >>= g) := by
  intro lines
  rw [run_bind, run_bind, map_bind, map_bind]
  refine bind_congr fun (result, later) => ?_
  cases result with
  | error fault => rfl
  | ok a => exact h a later

theorem attempt_bind (x : ExceptT Fault m α) (f : α → ExceptT Fault m β) :
    attempt (x >>= f) = attempt x >>= fun a => attempt (f a) := by
  refine ExceptT.ext (StateT.ext fun lines => ?_)
  rw [run_bind, run_attempt, run_attempt, ExceptT.run_bind, bind_assoc, bind_assoc]
  refine bind_congr fun result => ?_
  rw [pure_bind]
  cases result with
  | error fault => exact pure_bind _ _
  | ok a => rfl

/-- An attempt whose result is known ends as that result does. -/
theorem attempt_pure_bind (result : Except Fault α) (f : α → Printing m β) :
    attempt (ExceptT.mk (pure result)) >>= f =
      match result with
      | .ok a => f a
      | .error fault => throw fault := by
  refine ExceptT.ext (StateT.ext fun lines => ?_)
  rw [run_bind, run_attempt]
  change (pure result >>= _) >>= _ = _
  rw [pure_bind, pure_bind]
  cases result <;> rfl

/-- More lines do not change how an inspection ends that prints only. -/
theorem SameEnd.say_bind (lines more : List String) :
    SameEnd (say lines >>= fun _ => say more : Printing m Unit) (say more) := by
  intro before
  rw [run_bind]
  have said (printed front : List String) :
      (say printed : Printing m Unit).run.run front = pure (.ok (), front ++ printed) :=
    pure_bind _ _
  simp only [said, pure_bind, map_pure]

/-- A configuration that is loaded is one that can be used. -/
theorem sameEnd_config (files : Files m) (path : String) {f g : Config → Printing m α}
    (h : ∀ config, config.fault? = none → SameEnd (f config) (g config)) :
    SameEnd (attempt (Load.config files path) >>= f) (attempt (Load.config files path) >>= g) := by
  have split (k : Config → Printing m α) : attempt (Load.config files path) >>= k =
      attempt (files.text path) >>= fun text =>
        attempt (ExceptT.mk (pure (Config.ofText text))) >>= k := by
    rw [Load.config, attempt_bind, bind_assoc]
  rw [split, split]
  refine SameEnd.bind fun text => ?_
  rw [attempt_pure_bind, attempt_pure_bind]
  cases loaded : Config.ofText text with
  | error fault => exact .refl _
  | ok config => exact h config (Config.fault?_of_ofText loaded)

/-- The end of an inspection: the trial challenge, if there is one, and the last line. -/
def conclude (seeds : SeedStream) (build : Option Build) (catalog : Catalog) (config : Config) :
    Printing m Unit := do
  if let some build := build then
    say (challengeBox build (← attempt (ExceptT.mk (pure
      (trialChallenge catalog config build seeds)))))
  say ["", "✓ Catalog is consistent"]

/-- What an inspection does once its configuration is there. -/
def finish (files : Files m) (seeds : SeedStream) (options : Options) (catalog : Catalog)
    (config : Config) : Printing m Unit := do
  if let some path := options.manifest then
    say (moduleBox (← attempt (ModuleImage.load files path)))
  conclude seeds options.build catalog config

theorem inspect_eq (files : Files m) (seeds : SeedStream) (options : Options) :
    inspect files seeds options = (do
      say ["Loading catalog: " ++ options.checks]
      let catalog ← attempt (Load.catalog files options.checks)
      say (catalogBox catalog options.verbose)
      match options.config with
      | none => finish files seeds options catalog {}
      | some path =>
        let config ← attempt (Load.config files path)
        say ["", "✓ Config " ++ path ++ " is valid"]
        finish files seeds options catalog config) := by
  unfold inspect
  refine bind_congr fun _ => bind_congr fun catalog => bind_congr fun _ => ?_
  cases options.config with
  | none => exact pure_bind {} (finish files seeds options catalog)
  | some path =>
    refine bind_congr fun config => bind_congr fun _ => ?_
    exact pure_bind config (finish files seeds options catalog)

/-- A trial challenge does not change how an inspection ends. -/
theorem sameEnd_conclude (seeds : SeedStream) (build : Option Build) (catalog : Catalog)
    {config : Config} (accepted : config.fault? = none) :
    SameEnd (conclude seeds build catalog config : Printing m Unit)
      (conclude seeds none catalog config) := by
  cases build with
  | none => exact .refl _
  | some build =>
    obtain ⟨c, built⟩ := exists_trialChallenge catalog build
      (Session.secondaryQuota_le accepted) seeds
    intro lines
    simp only [conclude, attempt_pure_bind, built]
    exact SameEnd.say_bind _ _ lines

/-- Trying a challenge does not change how an inspection ends. -/
theorem sameEnd_inspect (files : Files m) (seeds : SeedStream) (options : Options) :
    SameEnd (inspect files seeds options)
      (inspect files seeds { options with build := none }) := by
  have ends (catalog : Catalog) (config : Config) (accepted : config.fault? = none) :
      SameEnd (finish files seeds options catalog config)
        (finish files seeds { options with build := none } catalog config) := by
    unfold finish
    cases options.manifest with
    | none => exact sameEnd_conclude seeds _ catalog accepted
    | some path => exact .bind fun _ => .bind fun _ => sameEnd_conclude seeds _ catalog accepted
  rw [inspect_eq, inspect_eq]
  refine .bind fun _ => .bind fun catalog => .bind fun _ => ?_
  cases options.config with
  | none => exact ends catalog {} rfl
  | some path =>
    refine sameEnd_config files path fun config accepted => ?_
    exact .bind fun _ => ends catalog config accepted

/-! ### Every run -/

/-- **Challenges never fail.** Let the configuration be one that can be used. Then, whatever is
called on a session after its start, no call fails as time goes by, and a challenge goes out
whenever one is due; and a trial challenge can be built for every build. So, whatever the files are,
an inspection that tries a challenge ends as it does without. -/
theorem challenges_never_fail {engine : Engine} (accepted : engine.config.fault? = none) :
    (∀ account build secret now seeds wire s later,
      Session.start engine account build secret now seeds = (.ok (wire, s), later) →
      ∀ calls now' seeds', ∃ u,
        ((s.after engine calls).tick engine now' seeds').1.result = .ok u ∧
          ((∃ wire, u = .challenge wire) ↔ (s.after engine calls).Due engine now')) ∧
    (∀ build seeds, ∃ c, trialChallenge engine.catalog engine.config build seeds = .ok c) ∧
    ∀ (m : Type → Type) [Monad m] [LawfulMonad m] (files : Files m) seeds options,
      SameEnd (inspect files seeds options)
        (inspect files seeds { options with build := none }) := by
  have quota := Session.secondaryQuota_le accepted
  refine ⟨?_, ?_, ?_⟩
  · intro account build secret now seeds wire s later started calls now' seeds'
    have sound := (Session.sound_of_start started).after calls
    exact sound.tick_ok quota now' seeds'
  · intro build seeds
    exact exists_trialChallenge engine.catalog build quota seeds
  · intro m _ _ files seeds options
    exact sameEnd_inspect files seeds options

/-- Half a minute after the right answer to the seed there is a challenge. -/
theorem sample_challenge :
    ∃ account secret now seeds wire s later calls w c,
      Session.start Engine.sample account 5875 secret now seeds = (.ok (wire, s), later) ∧
      ((s.after Engine.sample calls).tick Engine.sample 30300 (.ofSeed 2)).1.result =
        .ok (.challenge w) ∧
      trialChallenge Engine.sample.catalog Engine.sample.config 5875 (.ofSeed 3) = .ok c := by
  have accepted : Engine.sample.config.fault? = none := by decide
  obtain ⟨sessions, trials, -⟩ := challenges_never_fail accepted
  obtain ⟨account, secret, now, seeds, wire, s, later, calls, started, due, -⟩ :=
    Exchange.exists_due Engine.sample 5875 300 (.ofSeed 1)
  obtain ⟨u, answer, sent⟩ :=
    sessions account 5875 secret now seeds wire s later started calls 30300 (.ofSeed 2)
  obtain ⟨w, rfl⟩ := sent.2 due
  obtain ⟨c, trial⟩ := trials 5875 (.ofSeed 3)
  exact ⟨account, secret, now, seeds, wire, s, later, calls, w, c, started, answer, trial⟩

end Inspect

end Attest
