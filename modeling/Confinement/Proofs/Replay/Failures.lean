import Confinement.Proofs.Engine.Failures
import Confinement.Proofs.Replay.Steps

/-! Which replays fail, and why.

All that can go wrong is in the configuration and the profiles. The steps of a trace meet an engine that
can refuse new tasks alone, and those are counted.
-/

set_option autoImplicit false

namespace Confinement

namespace TraceProfile

def plainKey? (profile : TraceProfile) : Option ProfileKey :=
  match profile.key, profile.device, profile.inode with
  | some key, none, none => some key
  | none, some device, some inode => some (Executable.mk device inode).profileKey
  | _, _, _ => none

/-- The first thing that is wrong with a profile, where there are so many places for routines. -/
def flaw? (limit : Nat) (profile : TraceProfile) : Option Error :=
  match profile.plainKey? with
  | none => some (.trace (.ambiguousIdentity profile.index))
  | some key =>
    if limit ≤ profile.index.toNat then some (.dispatchIndex profile.index limit)
    else if key.isUnconfined then some (.policy .reservedKey)
    else none

theorem resolveKey_of_pathless {profile : TraceProfile} (pathless : profile.path = none)
    (files : Files) :
    profile.resolveKey files =
      match profile.plainKey? with
      | none => .error (.trace (.ambiguousIdentity profile.index))
      | some key => .ok key := by
  obtain ⟨key, device, inode, path, index, routine⟩ := profile
  cases pathless
  cases key <;> cases device <;> cases inode <;> rfl

theorem flaw?_eq_none {profile : TraceProfile} {limit : Nat} :
    profile.flaw? limit = none ↔
      ∃ key, profile.plainKey? = some key ∧ profile.index.toNat < limit ∧ key ≠ .unconfined := by
  unfold flaw?
  cases profile.plainKey? with
  | none => simp
  | some key =>
    dsimp only
    have reserved := key.isUnconfined_iff
    split_ifs with outside unconfined
    · simp [Nat.not_lt.mpr outside]
    · simp [reserved.mp unconfined]
    · simp [Nat.not_le.mp outside, mt reserved.mpr unconfined]

end TraceProfile

def TraceStep.isCreation : TraceStep → Bool
  | .kernel event => event.isCreation
  | _ => false

/-! ## Tasks that are refused -/

namespace Engine

variable {engine : Engine}

/-- In an engine without room for tasks, it is the creations that fail, and in any other nothing does. -/
theorem Reachable.countP_isFailed (reachable : engine.Reachable) (events : List KernelEvent) :
    (engine.run (events.map .event)).value.2.countP Response.isFailed =
      if engine.config.maxProcesses = 0 then events.countP KernelEvent.isCreation else 0 := by
  induction events generalizing engine with
  | nil => exact (ite_self _).symm
  | cons event rest ih =>
    have responses : (engine.run ((event :: rest).map .event)).value.2 =
      .ofResult .outcome (engine.handle event).value.2 ::
        ((engine.next (.event event)).run (rest.map .event)).value.2 := rfl
    rw [responses, List.countP_cons, List.countP_cons, ih (reachable.next _), config_next]
    cases reachable.received event with
    | answered possible answer =>
      rw [answer]
      by_cases none : engine.config.maxProcesses = 0
      · rw [if_pos none, if_pos none, Bool.eq_false_iff.mpr fun creation => possible creation none]
        rfl
      · rw [if_neg none, if_neg none]
        rfl
    | refused creation none answer _ =>
      rw [answer, if_pos none, if_pos none, creation]
      rfl

end Engine

namespace Replay

open Progress

variable {config : Config} {files : Files} {progress : Progress}

theorem countP_isFailed_operations {engine : Engine} (reachable : engine.Reachable) (step : TraceStep) :
    (engine.run step.operations).value.2.countP Response.isFailed =
      if engine.config.maxProcesses = 0 then [step].countP TraceStep.isCreation else 0 := by
  cases step with
  | setMode mode => exact (ite_self _).symm
  | kernel event => exact reachable.countP_isFailed [event]
  | openCall call => exact reachable.countP_isFailed (eventsOf (.openCall call))

theorem capacityErrors_played (reachable : progress.engine.Reachable) (number : Nat) (step : TraceStep) :
    (progress.played number step).capacityErrors = progress.capacityErrors +
      if progress.engine.config.maxProcesses = 0 then [step].countP TraceStep.isCreation else 0 := by
  have acted : (progress.acted step).engine.Reachable := by
    rw [engine_acted]
    exact reachable.after _
  have exits : (pendingExits (progress.acted step)).countP KernelEvent.isCreation = 0 := by
    rw [pendingExits, List.countP_map, List.countP_eq_zero]
    exact fun _ _ => Bool.false_ne_true
  have played : (progress.played number step).capacityErrors =
    (progress.acted step).cleared.capacityErrors := rfl
  rw [played, capacityErrors_cleared, acted.countP_isFailed, exits, ite_self, Nat.add_zero,
    capacityErrors_acted, countP_isFailed_operations reachable]

theorem capacityErrors_playedAll (reachable : progress.engine.Reachable) (number : Nat)
    (steps : List TraceStep) :
    (progress.playedAll number steps).capacityErrors = progress.capacityErrors +
      if progress.engine.config.maxProcesses = 0 then steps.countP TraceStep.isCreation else 0 := by
  induction steps generalizing number progress with
  | nil =>
    rw [List.countP_nil, ite_self]
    rfl
  | cons step rest ih =>
    have engine := engine_played progress number step
    have later : (progress.played number step).engine.Reachable := engine ▸ reachable.after _
    have config : (progress.played number step).engine.config = progress.engine.config :=
      engine ▸ Engine.config_after _ _
    rw [playedAll, ih later, config, capacityErrors_played reachable, Nat.add_assoc]
    have both : (step :: rest).countP TraceStep.isCreation =
        [step].countP TraceStep.isCreation + rest.countP TraceStep.isCreation := by
      rw [← List.countP_append, List.singleton_append]
    rw [both]
    split_ifs <;> rfl

/-! ## Profiles that are refused -/

inductive Readied (config : Config) (profiles : List TraceProfile) : Except Error Engine → Prop where
  | invalid {fault : ConfigFault} (invalid : config.validate = .error fault) :
      Readied config profiles (.error (.config fault))
  | flawed {error : Error} (valid : config.validate = .ok ())
      (flaw : profiles.findSome? (TraceProfile.flaw? config.maxProfiles) = some error) :
      Readied config profiles (.error error)
  | ready {engine : Engine} (valid : config.validate = .ok ())
      (flawless : profiles.findSome? (TraceProfile.flaw? config.maxProfiles) = none)
      (reachable : engine.Reachable) (same : engine.config = config) :
      Readied config profiles (.ok engine)

namespace Readied

variable {profile : TraceProfile} {rest profiles : List TraceProfile} {result : Except Error Engine}

theorem head {error : Error} (valid : config.validate = .ok ())
    (flaw : profile.flaw? config.maxProfiles = some error) :
    Readied config (profile :: rest) (.error error) :=
  .flawed valid (by rw [List.findSome?_cons, flaw])

theorem tail (flawless : profile.flaw? config.maxProfiles = none)
    (readied : Readied config rest result) : Readied config (profile :: rest) result := by
  have same : (profile :: rest).findSome? (TraceProfile.flaw? config.maxProfiles) =
      rest.findSome? (TraceProfile.flaw? config.maxProfiles) := by
    rw [List.findSome?_cons, flawless]
  cases readied with
  | invalid invalid => exact .invalid invalid
  | flawed valid flaw => exact .flawed valid (same.trans flaw)
  | ready valid none reachable again => exact .ready valid (same.trans none) reachable again

theorem succeeds_iff (readied : Readied config profiles result) :
    (∃ engine, result = .ok engine) ↔ config.validate = .ok () ∧ ∀ profile ∈ profiles, ∃ key,
      profile.plainKey? = some key ∧ profile.index.toNat < config.maxProfiles ∧ key ≠ .unconfined := by
  have flawless : profiles.findSome? (TraceProfile.flaw? config.maxProfiles) = none ↔ _ :=
    List.findSome?_eq_none_iff.trans (forall₂_congr fun _ _ => TraceProfile.flaw?_eq_none)
  rw [← flawless]
  cases readied with
  | invalid invalid => simp [invalid]
  | flawed _ flaw => simp [flaw]
  | ready valid none _ _ => simp [valid, none]

theorem of_invalid (readied : Readied config profiles result) {fault : ConfigFault}
    (invalid : config.validate = .error fault) : result = .error (.config fault) := by
  cases readied with
  | invalid again =>
    rw [again] at invalid
    cases invalid
    rfl
  | flawed valid _ | ready valid _ _ _ =>
    rw [valid] at invalid
    cases invalid

theorem of_flaw (readied : Readied config profiles result) (valid : config.validate = .ok ())
    {error : Error}
    (flaw : profiles.findSome? (TraceProfile.flaw? config.maxProfiles) = some error) :
    result = .error error := by
  cases readied with
  | invalid invalid =>
    rw [invalid] at valid
    cases valid
  | flawed _ again =>
    rw [again] at flaw
    cases flaw
    rfl
  | ready _ none _ _ =>
    rw [none] at flaw
    cases flaw

end Readied

theorem readied_installAll {engine : Engine} (reachable : engine.Reachable) {profiles : List TraceProfile}
    (pathless : ∀ profile ∈ profiles, profile.path = none) :
    Readied engine.config profiles (installAll files profiles engine).value := by
  induction profiles generalizing engine with
  | nil => exact .ready reachable.valid rfl reachable rfl
  | cons profile rest ih =>
    obtain ⟨path, others⟩ := List.forall_mem_cons.mp pathless
    have valid := reachable.valid
    rw [installAll, TraceProfile.resolveKey_of_pathless path]
    cases plain : profile.plainKey? with
    | none => exact .head valid (by rw [TraceProfile.flaw?, plain])
    | some key =>
      have flaw : profile.flaw? engine.config.maxProfiles =
          if engine.config.maxProfiles ≤ profile.index.toNat then
            some (.dispatchIndex profile.index engine.config.maxProfiles)
          else if key.isUnconfined then some (.policy .reservedKey)
          else none := by
        rw [TraceProfile.flaw?, plain]
      have next : (engine.install key profile.index profile.routine.build).value.1 =
        engine.next (installing profile key) := rfl
      dsimp only
      rw [Logged.value_bind, reachable.receptive.answer_install, reachable.places, next]
      split_ifs at flaw ⊢
      · exact .head valid flaw
      · exact .head valid flaw
      · have later := ih (reachable.next (installing profile key)) others
        rw [Engine.config_next] at later
        exact later.tail flaw

theorem readied_prepare {trace : Trace} (pathless : ∀ profile ∈ trace.profiles, profile.path = none)
    (config : Config) (assignments : Assignments) (files : Files) :
    Readied config trace.profiles (prepare trace config assignments files) := by
  unfold prepare
  cases valid : config.validate with
  | error fault =>
    rw [Engine.build_of_invalid valid]
    exact .invalid valid
  | ok _ =>
    rw [Engine.build_of_valid valid]
    exact readied_installAll (Engine.reachable_initial valid .recording assignments) pathless

/-! ## Replays -/

/-- When a replay fails, and why. -/
structure Failures (trace : Trace) (config : Config) (assignments : Assignments) (files : Files) : Prop where
  succeeds : (∃ report, (run trace config assignments files).value = .ok report) ↔
    config.validate = .ok () ∧ ∀ profile ∈ trace.profiles, ∃ key, profile.plainKey? = some key ∧
      profile.index.toNat < config.maxProfiles ∧ key ≠ .unconfined
  refused : ∀ fault, config.validate = .error fault →
    (run trace config assignments files).value = .error (.config fault)
  flawed : config.validate = .ok () → ∀ error,
    trace.profiles.findSome? (TraceProfile.flaw? config.maxProfiles) = some error →
      (run trace config assignments files).value = .error error
  steps : ∀ steps error, (run { trace with steps } config assignments files).value = .error error ↔
    (run trace config assignments files).value = .error error
  counted : ∀ report, (run trace config assignments files).value = .ok report →
    report.summary.capacityErrors =
      if config.maxProcesses = 0 then trace.steps.countP TraceStep.isCreation else 0

/-- An engine fails the creation of a task if it has no room for any, and otherwise no event at all; its
loader never runs out of room. So a replay of profiles that are not given by a path fails for the
configuration or for the first profile with a flaw, whatever the steps are. -/
theorem failures_of_pathless :
    (∀ engine : Engine, engine.Reachable → engine.Failures) ∧
      ∀ (trace : Trace) (config : Config) (assignments : Assignments) (files : Files),
        (∀ profile ∈ trace.profiles, profile.path = none) → Failures trace config assignments files := by
  refine ⟨fun _ reachable => reachable.failures, fun trace config assignments files pathless => ?_⟩
  have readied := readied_prepare pathless config assignments files
  constructor
  case succeeds =>
    rw [← readied.succeeds_iff, value_run]
    cases prepare trace config assignments files <;> simp
  case refused =>
    intro fault invalid
    rw [value_run, readied.of_invalid invalid]
  case flawed =>
    intro valid error flaw
    rw [value_run, readied.of_flaw valid flaw]
  case steps =>
    intro steps error
    have same : prepare { trace with steps } config assignments files =
      prepare trace config assignments files := rfl
    rw [value_run, value_run, same]
    cases prepare trace config assignments files <;> simp
  case counted =>
    intro report succeeded
    obtain ⟨engine, prepared, rfl⟩ := exists_prepared succeeded
    rw [prepared] at readied
    cases readied with
    | ready _ _ reachable same =>
      have begun : (start engine).engine.Reachable := reachable
      have counted := capacityErrors_playedAll begun 0 trace.steps
      rw [start, same, Nat.zero_add] at counted
      exact counted

def misplaced : Trace where
  profiles :=
    [⟨none, some 0, some 5, none, 0, .denyAll⟩, ⟨none, some 0, some 0, none, 9, .denyAll⟩,
      ⟨some ⟨5⟩, some 0, none, none, 1, .denyAll⟩]
  steps := [.kernel (.processCreate 0 7 7), .kernel (.processExit 7), .kernel (.processCreate 0 8 8)]

/-- The second profile is refused for its place before its key is looked at. Without it and the third, both
tasks are refused and counted. -/
theorem failures_of_misplaced :
    let config : Config := ⟨0, 2, 1, .enforcing, .perThread, 1⟩
    let engine := Engine.initial config .recording .direct
    let files := Files.ofListing [] []
    let kept := { misplaced with profiles := misplaced.profiles.take 1 }
    (engine.handle (.processCreate 0 7 7)).value.2 = .error (.capacity "process" 0) ∧
      engine.Unmoved (engine.handle (.processCreate 0 7 7)).value.1 ∧
      (∀ profile ∈ misplaced.profiles, profile.path = none) ∧
      (run misplaced config .direct files).value = .error (.dispatchIndex 9 2) ∧
      ∃ report, (run kept config .direct files).value = .ok report ∧ report.summary.capacityErrors = 2 := by
  intro config engine files kept
  have reachable : engine.Reachable := Engine.reachable_initial rfl .recording .direct
  have pathless : ∀ profile ∈ misplaced.profiles, profile.path = none := by decide
  have pathlessKept : ∀ profile ∈ kept.profiles, profile.path = none := by decide
  obtain ⟨events, replays⟩ := failures_of_pathless
  have answer : (engine.handle (.processCreate 0 7 7)).value.2 = .error (.capacity "process" 0) := by
    decide +kernel
  have plain : ∀ profile ∈ kept.profiles, ∃ key, profile.plainKey? = some key ∧
      profile.index.toNat < 2 ∧ key ≠ .unconfined := by
    intro profile member
    cases List.mem_singleton.mp member
    exact ⟨_, rfl, by decide, by decide⟩
  have installed := replays kept config .direct files pathlessKept
  obtain ⟨report, succeeded⟩ := installed.succeeds.mpr ⟨rfl, plain⟩
  exact ⟨answer, ((events engine reachable).refused _ _ answer).2, pathless,
    (replays misplaced config .direct files pathless).flawed rfl _ rfl, report, succeeded,
    installed.counted report succeeded⟩

end Replay

end Confinement
