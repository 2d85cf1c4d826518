import Confinement.Proofs.Engine.Integrity

/-! How a task may cease to run under a profile.

A task keeps the profile that it has, or moves to that of a program that it loads, and hands it on to
its children. To be rid of all profiles it has to exit, to be created anew, to give way to another
task, or to make an open call that is decided by a routine that forgets its caller.
-/

set_option autoImplicit false

namespace Confinement.Engine

variable {engine start : Engine} {operation : Operation} {tid : UInt32}

def Confined (engine : Engine) (tid : UInt32) : Prop :=
  ∃ record, engine.processes.find? tid = some record ∧ record.profileKey ≠ .unconfined

def movesTo? (engine : Engine) (operation : Operation) (tid : UInt32) : Option ProfileKey :=
  match operation with
  | .event (.programLoad loader executable) =>
    if loader = tid ∧ (engine.profiles.find? executable.profileKey).isSome then
      some executable.profileKey
    else none
  | _ => none

/-- The task exits, or is created anew, or gives way to another one that is created. -/
inductive Unbinds (engine : Engine) (tid : UInt32) : Operation → Prop where
  | exits : Unbinds engine tid (.event (.processExit tid))
  | created {parent group : UInt32} : Unbinds engine tid (.event (.processCreate parent tid group))
  | evicted {parent child group : UInt32}
      (gone : (engine.next (.event (.processCreate parent child group))).processes.find? tid = none)
      (evicts : (engine.next (.event (.processCreate parent child group))).processes.evicted =
        engine.processes.evicted + 1) :
      Unbinds engine tid (.event (.processCreate parent child group))

/-- The operation ends an open call of the task that a routine decides which forgets its caller. -/
def ForgottenBy (engine : Engine) (operation : Operation) (tid : UInt32) : Prop :=
  ∃ task : Task, task.tid = tid ∧ operation = .event (.openExit task) ∧ engine.Forgets task tid

variable {published : ProfileKey → Prop}

theorem movesTo?_eq_none (unmoved : ∀ executable, operation = .event (.programLoad tid executable) →
    engine.profiles.find? executable.profileKey = none) : engine.movesTo? operation tid = none := by
  unfold movesTo?
  split
  case h_1 operation loader executable =>
    refine if_neg ?_
    rintro ⟨rfl, known⟩
    simp [unmoved executable rfl] at known
  case h_2 => rfl

theorem profileKey_next (restrained : engine.dispatch.Each Routine.IsRestrained) (sound : engine.Sound)
    (consistent : engine.Consistent published)
    {record later : ProcessState} (present : engine.processes.find? tid = some record)
    (confined : record.profileKey ≠ .unconfined)
    (unborn : ∀ parent group, operation ≠ .event (.processCreate parent tid group))
    (found : (engine.next operation).processes.find? tid = some later) :
    later.profileKey ≠ .unconfined ∧
      later.profileKey = (engine.movesTo? operation tid).getD record.profileKey := by
  cases descends_next restrained sound found with
  | born creates => exact absurd creates (unborn _ _)
  | moved loads known _ =>
    obtain ⟨profile, loaded⟩ := Option.isSome_iff_exists.mp known
    have admitted := (consistent.keyed _ profile loaded).2.confined
    refine ⟨fun same => ?_, by simp [loads, movesTo?, known]⟩
    dsimp only at same
    rw [same] at admitted
    cases admitted
  | kept _ unmoved there same =>
    rw [present, Option.some.injEq] at there
    subst there
    simp only [ProcessState.untainted, ProcessState.mk.injEq] at same
    rw [movesTo?_eq_none unmoved, Option.getD_none, same.2.2.2.1]
    exact ⟨confined, rfl⟩

theorem profileKey_next_create (sound : engine.Sound) {parent child group : UInt32}
    {record process : ProcessState} (present : engine.processes.find? parent = some record)
    (created : (engine.perform (.event (.processCreate parent child group))).value.2 =
      .outcome (.tracked process)) :
    (engine.next (.event (.processCreate parent child group))).processes.find? child =
      some process ∧ process.profileKey = record.profileKey := by
  obtain ⟨found, rfl⟩ := Tracker.find?_created sound.tasks (created_of_tracked created)
  exact ⟨found, Tracker.profileOf_tracked present⟩

theorem lost_next (restrained : engine.dispatch.Each Routine.IsRestrained) (sound : engine.Sound)
    (consistent : engine.Consistent published)
    (tracked : engine.processes.find? tid ≠ none)
    (gone : (engine.next operation).processes.find? tid = none) :
    engine.Unbinds tid operation ∨ engine.ForgottenBy operation tid := by
  by_cases adds : ∃ parent child group, operation = .event (.processCreate parent child group)
  · -- A creation takes the record of a task only to make room, which is counted.
    obtain ⟨parent, child, group, rfl⟩ := adds
    have looked := engine.processes.spared_lookup id (fun _ => False) parent
    rw [← sound.tasks.find?_lookup parent] at tracked
    have evicted :=
      (Tracker.updated_create sound.tasks parent child group).evicted_of_lost tracked gone
    exact .inl (.evicted gone (evicted.trans (congrArg (· + 1) looked.evicted)))
  · have spared := spared_processes restrained sound.tasks fun parent child group same =>
      adds ⟨parent, child, group, same⟩
    rcases spared.spared sound.tasks tid with ⟨rfl | ⟨task, rfl, forgets⟩, _⟩ | same
    · exact .inl .exits
    · refine .inr ⟨task, ?_, rfl, forgets⟩
      cases forgets with
      | intro present => exact (consistent.numbered _ _ present).1.symm
    · rw [gone, Option.map_none, eq_comm, Option.map_eq_none_iff] at same
      exact absurd same tracked

/-- A task that is created anew is the only one that may lose its profile and stay tracked. -/
theorem Confined.next (restrained : engine.dispatch.Each Routine.IsRestrained) (sound : engine.Sound)
    (consistent : engine.Consistent published)
    (confined : engine.Confined tid) (bound : ¬ engine.Unbinds tid operation)
    (remembered : ¬ engine.ForgottenBy operation tid) : (engine.next operation).Confined tid := by
  obtain ⟨record, present, key⟩ := confined
  cases found : (engine.next operation).processes.find? tid with
  | none =>
    have tracked : engine.processes.find? tid ≠ none := by simp [present]
    exact absurd (lost_next restrained sound consistent tracked found) (not_or.mpr ⟨bound, remembered⟩)
  | some later =>
    have unborn : ∀ parent group, operation ≠ .event (.processCreate parent tid group) := by
      rintro parent group rfl
      exact bound .created
    exact ⟨later, found, (profileKey_next restrained sound consistent present key unborn found).1⟩

/-! ## Runs -/

/-- What is promised to a task that runs under a profile at some time of a run. -/
structure Lasting (start : Engine) (past : List Operation) : Prop where
  step : ∀ operation tid record later, (start.after past).processes.find? tid = some record →
    record.profileKey ≠ .unconfined →
    (∀ parent group, operation ≠ .event (.processCreate parent tid group)) →
    (start.after (past ++ [operation])).processes.find? tid = some later →
    later.profileKey ≠ .unconfined ∧
      later.profileKey = ((start.after past).movesTo? operation tid).getD record.profileKey
  fork : ∀ parent child group record process,
    (start.after past).processes.find? parent = some record → record.profileKey ≠ .unconfined →
    start.answer ⟨past, .event (.processCreate parent child group)⟩ =
      .outcome (.tracked process) →
    (start.after (past ++ [.event (.processCreate parent child group)])).processes.find? child =
      some process ∧ process.profileKey = record.profileKey
  run : ∀ rest tid, (∀ operation ∈ rest, operation.Registers Routine.IsRestrained) →
    (start.after past).Confined tid → ¬ (start.after (past ++ rest)).Confined tid →
    ∃ moment ∈ Moment.following past rest, (start.after moment.past).Confined tid ∧
      ¬ (start.after (moment.past ++ [moment.operation])).Confined tid ∧
      ((start.after moment.past).Unbinds tid moment.operation ∨
        (start.after moment.past).ForgottenBy moment.operation tid)

/-- Where routines are restrained, a task never gets rid of its profile by a program that it loads or by what
is done to profiles and routines, and by an open call only if the routine that decides forgets it. -/
theorem lasting_after {config : Config} {terminator : Terminator} {assignments : Assignments}
    (built : (build config terminator assignments).value = .ok start) {past : List Operation}
    (registers : ∀ operation ∈ past, operation.Registers Routine.IsRestrained) :
    start.Lasting past := by
  have sound := sound_of_build built
  have restrained := each_of_build built Routine.IsRestrained
  constructor
  case step =>
    intro operation tid record later present confined unborn found
    rw [after_concat] at found
    exact profileKey_next (each_after restrained registers) (sound.after past)
      (consistent_of_build built registers) present confined unborn found
  case fork =>
    intro parent child group record process present _ created
    rw [after_concat]
    exact profileKey_next_create (sound.after past) present created
  case run =>
    intro rest tid more confined unconfined
    by_contra none
    refine unconfined (holds_following (fun engine => engine.Confined tid) confined ?_)
    intro later member before
    obtain ⟨first, last, rfl, same⟩ := Moment.past_of_mem member
    have earlier : ∀ operation ∈ later.past, operation.Registers Routine.IsRestrained := by
      rw [same]
      exact List.forall_mem_append.mpr ⟨registers, (List.forall_mem_append.mp more).1⟩
    by_contra lost
    refine none ⟨later, member, before, by rwa [after_concat], ?_⟩
    by_contra other
    obtain ⟨bound, remembered⟩ := not_or.mp other
    exact lost (before.next (each_after restrained earlier) (sound.after later.past)
      (consistent_of_build built earlier) bound remembered)

theorem lasting_after_confinedRun :
    (pair.after (confinedRun (.described .denyAll))).Confined 8 ∧
      pair.Lasting (confinedRun (.described .denyAll)) := by
  refine ⟨⟨⟨8, 8, 8, Executable.profileKey ⟨0, 5⟩, false⟩, ?_, ?_⟩, lasting_after build_pair
    (registers_confinedRun RoutineSpec.denyAll.keepsRecords.isRestrained)⟩
  · decide +kernel
  · decide

/-- An open call that is decided by a routine which forgets its caller frees the caller. -/
theorem not_lasting_of_forget :
    ¬ ∀ (config : Config) (terminator : Terminator) (assignments : Assignments) (start : Engine)
      (past rest : List Operation) (tid : UInt32),
      (build config terminator assignments).value = .ok start →
      (start.after past).Confined tid → ¬ (start.after (past ++ rest)).Confined tid →
      ∃ moment ∈ Moment.following past rest,
        (start.after moment.past).Unbinds tid moment.operation := by
  intro claim
  have forgotten : (pair.after (confinedRun (.script "forgetful" [.forget]))).processes.find? 7 =
      none := by decide +kernel
  obtain ⟨moment, member, unbinds⟩ := claim _ _ _ pair
    ((confinedRun (.script "forgetful" [.forget])).take 5) [.event (.openExit ⟨7, 7⟩)] 7 build_pair
    ⟨⟨7, 7, 7, Executable.profileKey ⟨0, 5⟩, false⟩, by decide +kernel, by decide⟩ (by
      rintro ⟨record, present, _⟩
      cases forgotten.symm.trans present)
  cases List.mem_singleton.mp member
  cases unbinds

end Confinement.Engine
