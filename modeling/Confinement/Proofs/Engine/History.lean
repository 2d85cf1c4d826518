import Confinement.Proofs.Engine.Effects
import Confinement.Proofs.Last

/-! Runs of an engine as histories.

A moment is one operation of a run together with all that was done before it, which fixes the state
that it finds and its answer. What a state owes to the past is told by the last moment at which
something happened.
-/

set_option autoImplicit false

namespace Confinement

/-! ## Configurations -/

theorem Config.validate_iff (config : Config) :
    config.validate = .ok () ↔
      config.tableShards ≠ 0 ∧ config.maxProfiles ≠ 0 ∧ config.maxProfiles < UInt32.size ∧
        config.channelCapacity ≠ 0 := by
  unfold validate
  by_cases shards : config.tableShards = 0 <;> by_cases profiles : config.maxProfiles = 0 <;>
    by_cases many : UInt32.size ≤ config.maxProfiles <;>
      by_cases channel : config.channelCapacity = 0 <;>
        simp [shards, profiles, many, channel, bind, Except.bind, pure, Except.pure, throw, throwThe,
          MonadExceptOf.throw, Nat.not_le.mp]

/-! ## Moments -/

/-- One operation of a run, and those before it. -/
structure Moment where
  past : List Operation
  operation : Operation

namespace Moment

def Creates (tid : UInt32) (moment : Moment) : Prop :=
  ∃ parent group, moment.operation = .event (.processCreate parent tid group)

def Enters (tid : UInt32) (flags : OpenFlags) (moment : Moment) : Prop :=
  ∃ task : Task, task.tid = tid ∧ moment.operation = .event (.openEntry task flags)

def Leaves (tid : UInt32) (moment : Moment) : Prop :=
  ∃ task : Task, task.tid = tid ∧ moment.operation = .event (.openExit task)

end Moment

def Moment.following (past : List Operation) : List Operation → List Moment
  | [] => []
  | operation :: rest => ⟨past, operation⟩ :: following (past ++ [operation]) rest

def moments (operations : List Operation) : List Moment :=
  Moment.following [] operations

theorem Moment.following_append (past first second : List Operation) :
    following past (first ++ second) = following past first ++ following (past ++ first) second := by
  induction first generalizing past with
  | nil => simp [following]
  | cons operation rest ih => simp [following, ih]

@[simp] theorem moments_nil : moments [] = [] := rfl

theorem moments_concat (operations : List Operation) (operation : Operation) :
    moments (operations ++ [operation]) = moments operations ++ [⟨operations, operation⟩] := by
  rw [moments, Moment.following_append]
  rfl

theorem Moment.following_split {past operations : List Operation} {before since : List Moment}
    {moment : Moment} (split : following past operations = before ++ moment :: since) :
    ∃ first rest, operations = first ++ moment.operation :: rest ∧ moment.past = past ++ first ∧
      before = following past first ∧
      since = following (moment.past ++ [moment.operation]) rest := by
  induction before generalizing past operations with
  | nil =>
    cases operations with
    | nil => cases split
    | cons operation rest =>
      obtain ⟨rfl, rfl⟩ := List.cons.inj split
      exact ⟨[], rest, rfl, by simp, rfl, rfl⟩
  | cons earliest later ih =>
    cases operations with
    | nil => cases split
    | cons operation rest =>
      obtain ⟨rfl, tail⟩ := List.cons.inj split
      obtain ⟨first, last, rfl, same, rfl, since⟩ := ih tail
      exact ⟨operation :: first, last, rfl, by simp [same], rfl, since⟩

theorem Moment.past_of_mem {past rest : List Operation} {later : Moment}
    (member : later ∈ following past rest) :
    ∃ first last, rest = first ++ later.operation :: last ∧ later.past = past ++ first := by
  obtain ⟨before, since, split⟩ := List.append_of_mem member
  obtain ⟨first, last, same, earlier, _⟩ := following_split split
  exact ⟨first, last, same, earlier⟩

theorem moments_split {operations : List Operation} {before since : List Moment} {moment : Moment}
    (split : moments operations = before ++ moment :: since) :
    before = moments moment.past ∧
      ∃ rest, operations = moment.past ++ moment.operation :: rest ∧
        since = Moment.following (moment.past ++ [moment.operation]) rest := by
  obtain ⟨first, rest, same, past, before, since⟩ := Moment.following_split split
  rw [List.nil_append] at past
  subst past
  exact ⟨before, rest, same, since⟩

theorem exists_rest_of_mem {operations : List Operation} {moment : Moment}
    (member : moment ∈ moments operations) :
    ∃ rest, operations = moment.past ++ moment.operation :: rest := by
  obtain ⟨before, since, split⟩ := List.append_of_mem member
  obtain ⟨_, rest, same, _⟩ := moments_split split
  exact ⟨rest, same⟩

theorem split_within {operations : List Operation} {before since : List Moment}
    {moment later : Moment} (split : moments operations = before ++ moment :: since)
    (member : later ∈ since) :
    ∃ early late, since = early ++ later :: late ∧
      moments operations = (before ++ moment :: early) ++ later :: late := by
  obtain ⟨early, late, rfl⟩ := List.append_of_mem member
  exact ⟨early, late, rfl, by simp [split]⟩

/-- A later moment has the earlier ones in its past, and itself lies in the run. -/
theorem prefix_of_mem_since {operations : List Operation} {before since : List Moment}
    {moment later : Moment} (split : moments operations = before ++ moment :: since)
    (member : later ∈ since) :
    moment.past ++ [moment.operation] <+: later.past ∧
      later.past ++ [later.operation] <+: operations := by
  obtain ⟨_, rest, rfl, rfl⟩ := moments_split split
  obtain ⟨early, late, inside⟩ := List.append_of_mem member
  obtain ⟨first, last, rfl, past, _⟩ := Moment.following_split inside
  rw [past]
  exact ⟨List.prefix_append _ _, last, by simp⟩

namespace Engine

def after (engine : Engine) (operations : List Operation) : Engine :=
  (engine.run operations).value.1

@[simp] theorem after_nil (engine : Engine) : engine.after [] = engine := rfl

theorem after_singleton (engine : Engine) (operation : Operation) :
    engine.after [operation] = engine.next operation := rfl

theorem after_concat (engine : Engine) (operations : List Operation) (operation : Operation) :
    engine.after (operations ++ [operation]) = (engine.after operations).next operation := by
  induction operations generalizing engine with
  | nil => rfl
  | cons first rest ih => exact ih (engine.perform first).value.1

theorem after_append (engine : Engine) (first second : List Operation) :
    engine.after (first ++ second) = (engine.after first).after second := by
  induction first generalizing engine with
  | nil => rfl
  | cons operation rest ih => exact ih (engine.next operation)

theorem run_concat (engine : Engine) (operations : List Operation) (operation : Operation) :
    (engine.run (operations ++ [operation])).value =
      ((engine.after operations).next operation,
        (engine.run operations).value.2 ++ [((engine.after operations).perform operation).value.2]) := by
  induction operations generalizing engine with
  | nil => rfl
  | cons first rest ih =>
    exact congrArg (fun later => (later.1, (engine.perform first).value.2 :: later.2))
      (ih (engine.next first))

/-- What holds after some operations and is kept by each of the next holds after those. -/
theorem holds_following (holds : Engine → Prop) {start : Engine} {past rest : List Operation}
    (first : holds (start.after past))
    (step : ∀ later ∈ Moment.following past rest, holds (start.after later.past) →
      holds ((start.after later.past).next later.operation)) :
    holds (start.after (past ++ rest)) := by
  induction rest generalizing past with
  | nil => rwa [List.append_nil]
  | cons operation rest ih =>
    rw [List.append_cons]
    apply ih
    · rw [after_concat]
      exact step ⟨past, operation⟩ List.mem_cons_self first
    · exact fun later member => step later (List.mem_cons_of_mem _ member)

theorem holds_after (holds : Engine → Prop) {start : Engine} {operations : List Operation}
    (first : holds start)
    (step : ∀ later ∈ moments operations, holds (start.after later.past) →
      holds ((start.after later.past).next later.operation)) : holds (start.after operations) :=
  @holds_following holds start [] operations first step

theorem holds_since (holds : Engine → Prop) {start : Engine} {operations : List Operation}
    {before since : List Moment} {moment : Moment}
    (split : moments operations = before ++ moment :: since)
    (first : holds ((start.after moment.past).next moment.operation))
    (step : ∀ later ∈ since, holds (start.after later.past) →
      holds ((start.after later.past).next later.operation)) : holds (start.after operations) := by
  obtain ⟨_, rest, rfl, rfl⟩ := moments_split split
  rw [← after_concat] at first
  rw [List.append_cons]
  exact holds_following holds first step

def answer (engine : Engine) (moment : Moment) : Response :=
  ((engine.after moment.past).perform moment.operation).value.2

/-! ## What holds all along -/

/-- Each table of the engine keeps within its capacity. -/
structure Sound (engine : Engine) : Prop where
  tasks : engine.processes.Bounded
  profiles : engine.profiles.Bounded

theorem sound_initial (config : Config) (terminator : Terminator) (assignments : Assignments) :
    (initial config terminator assignments).Sound :=
  ⟨Table.each_new _ _ _ _ Shard.bounded_empty, Table.each_new _ _ _ _ Shard.bounded_empty⟩

variable {engine : Engine}

theorem Sound.next (sound : engine.Sound) (operation : Operation) :
    (engine.next operation).Sound where
  tasks := (follows_processes sound.tasks operation).bounded sound.tasks
  profiles := (follows_profiles sound.tasks operation).bounded sound.profiles

theorem Sound.after (sound : engine.Sound) (operations : List Operation) :
    (engine.after operations).Sound := by
  induction operations generalizing engine with
  | nil => exact sound
  | cons operation rest ih => exact ih (sound.next operation)

theorem follows_processes_after (sound : engine.Sound) (operations : List Operation) :
    Table.Follows engine.processes (engine.after operations).processes := by
  induction operations generalizing engine with
  | nil => exact .refl _
  | cons operation rest ih =>
    exact (follows_processes sound.tasks operation).trans (ih (sound.next operation))

theorem follows_profiles_after (sound : engine.Sound) (operations : List Operation) :
    Table.Follows engine.profiles (engine.after operations).profiles := by
  induction operations generalizing engine with
  | nil => exact .refl _
  | cons operation rest ih =>
    exact (follows_profiles sound.tasks operation).trans (ih (sound.next operation))

theorem follows_slot_after (engine : Engine) (operations : List Operation) :
    engine.slot.Follows (engine.after operations).slot := by
  induction operations generalizing engine with
  | nil => exact .refl _
  | cons operation rest ih => exact (engine.follows_slot operation).trans (ih _)

theorem each_after {required : Routine → Prop} {operations : List Operation}
    (each : engine.dispatch.Each required)
    (registers : ∀ operation ∈ operations, operation.Registers required) :
    (engine.after operations).dispatch.Each required := by
  induction operations generalizing engine with
  | nil => exact each
  | cons operation rest ih =>
    obtain ⟨first, later⟩ := List.forall_mem_cons.mp registers
    exact ih (each_next each first) later

theorem each_at {required : Routine → Prop} {operations : List Operation}
    (each : engine.dispatch.Each required)
    (registers : ∀ operation ∈ operations, operation.Registers required) {moment : Moment}
    (member : moment ∈ moments operations) : (engine.after moment.past).dispatch.Each required := by
  obtain ⟨rest, rfl⟩ := exists_rest_of_mem member
  exact each_after each (List.forall_mem_append.mp registers).1

theorem find?_next_load (sound : engine.Sound) (loader : UInt32) (executable : Executable)
    (tid : UInt32) :
    (engine.next (.event (.programLoad loader executable))).processes.find? tid =
      if tid = loader ∧ (engine.profiles.find? executable.profileKey).isSome then
        (engine.processes.find? tid).map fun record =>
          { record with profileKey := executable.profileKey }
      else engine.processes.find? tid :=
  Tracker.find?_load sound.tasks loader executable tid

theorem find?_next_exit (sound : engine.Sound) (gone tid : UInt32) :
    (engine.next (.event (.processExit gone))).processes.find? tid =
      if tid = gone then none else engine.processes.find? tid :=
  sound.tasks.find?_delete gone tid

theorem build_of_valid {config : Config} (valid : config.validate = .ok ()) (terminator : Terminator)
    (assignments : Assignments) :
    (build config terminator assignments).value = .ok (initial config terminator assignments) := by
  rw [build, Logged.value_bind, Config.check, valid]
  rfl

theorem build_of_invalid {config : Config} {fault : ConfigFault} (invalid : config.validate = .error fault)
    (terminator : Terminator) (assignments : Assignments) :
    (build config terminator assignments).value = .error (.config fault) := by
  rw [build, Logged.value_bind, Config.check, invalid]
  rfl

theorem eq_initial_of_build {config : Config} {terminator : Terminator} {assignments : Assignments}
    (built : (build config terminator assignments).value = .ok engine) :
    engine = initial config terminator assignments := by
  rw [build, Logged.value_bind] at built
  cases checked : config.check.value with
  | error error => simp [checked] at built
  | ok _ =>
    simp only [checked, Logged.value_bind, Logged.value_pure, Except.ok.injEq] at built
    exact built.symm

theorem sound_of_build {config : Config} {terminator : Terminator} {assignments : Assignments}
    (built : (build config terminator assignments).value = .ok engine) : engine.Sound :=
  eq_initial_of_build built ▸ sound_initial config terminator assignments

theorem each_of_build {config : Config} {terminator : Terminator} {assignments : Assignments}
    (built : (build config terminator assignments).value = .ok engine) (required : Routine → Prop) :
    engine.dispatch.Each required := by
  rw [eq_initial_of_build built]
  rintro _ _ ⟨⟩

def pair : Engine :=
  initial ⟨2, 2, 1, .audit, .perThread, 1⟩ .recording .direct

theorem build_pair :
    (build ⟨2, 2, 1, .audit, .perThread, 1⟩ .recording .direct).value = .ok pair := rfl

/-- A task that loads a program with a profile, has a child, and opens a file under a routine. -/
def confinedRun (routine : Routine) : List Operation :=
  [.install (Executable.profileKey ⟨0, 5⟩) 0 routine, .event (.processCreate 0 7 7),
    .event (.programLoad 7 ⟨0, 5⟩), .event (.processCreate 7 8 8),
    .event (.openEntry ⟨7, 7⟩ (.forOpen 1 0)), .event (.openExit ⟨7, 7⟩)]

theorem registers_confinedRun {required : Routine → Prop} {routine : Routine}
    (fits : required routine) :
    ∀ operation ∈ confinedRun routine, operation.Registers required := by
  simpa [confinedRun, Operation.Registers, Operation.routine?] using fits

end Engine

end Confinement
