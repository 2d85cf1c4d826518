import Confinement.Proofs.Engine.Denials
import Confinement.Proofs.Policy

/-! The taint of each task as the history of the run tells it.

Where all routines have a description, a task is tainted exactly if since its creation one of its own
open calls asked for what the policy of its profile does not allow, but lets pass with a taint. Nothing
else sets a taint, nothing but another life clears it, and no task comes by that of another one.
-/

set_option autoImplicit false

namespace Confinement

namespace Engine

variable {engine start : Engine} {operation : Operation} {tid : UInt32} {task : Task}
  {published : ProfileKey → Prop}

/-! ## One operation -/

/-- The operation ends an open call of the thread that is sent to a policy, and for the arguments that
are handed to it the policy taints its caller. -/
inductive Taints (engine : Engine) (tid : UInt32) : Operation → Prop where
  | intro {task : Task} {index : UInt32} {verdict : Verdict} {policy : AccessPolicy}
      {flags : OpenFlags} (own : task.tid = tid)
      (answer : (engine.perform (.event (.openExit task))).value.2 =
        .outcome (.opened (.dispatched index verdict)))
      (registered : engine.dispatch.get? index = some (.described (.access policy)))
      (handed : engine.handed? task = some (some flags))
      (taints : policy.Taints flags.access) : Taints engine tid (.event (.openExit task))

theorem not_taints_of_passed {result : Engine} {outcome : OpenOutcome}
    (resolved : (engine.resolveOpen task).value = (result, .passed outcome)) :
    ¬ engine.Taints tid (.event (.openExit task)) := by
  rintro ⟨_, _, _, handed, _⟩
  rw [handed?, resolved] at handed
  cases handed

theorem taints_iff_of_called {process : ProcessState} {profile : Profile} {spec : RoutineSpec}
    (present : engine.processes.find? task.tid = some process)
    (confined : process.isConfined = true)
    (loaded : engine.profiles.find? process.profileKey = some profile)
    (registered : engine.dispatch.get? profile.index = some (.described spec)) :
    engine.Taints tid (.event (.openExit task)) ↔
      task.tid = tid ∧ spec.Taints (engine.contextOf task process profile).requested := by
  have resolved := resolveOpen_registered present confined loaded registered
  have handed : engine.handed? task = some (engine.slot.take task.tid).2 := by
    rw [handed?, resolved]
    rfl
  have outcome : ∃ verdict, (engine.perform (.event (.openExit task))).value.2 =
      .outcome (.opened (.dispatched profile.index verdict)) := by
    have opened : (engine.perform (.event (.openExit task))).value.2 =
      .outcome (.opened (engine.exitOpen task).value.2) := rfl
    rw [opened, value_exitOpen, resolved]
    exact ⟨_, rfl⟩
  obtain ⟨verdict, answer⟩ := outcome
  constructor
  · rintro ⟨own, answered, policed, passed, taints⟩
    rw [answer] at answered
    cases answered
    rw [registered, Option.some.injEq, Routine.described.injEq] at policed
    rw [handed, Option.some.injEq] at passed
    subst policed
    refine ⟨own, ?_⟩
    rw [Situation.requested, contextOf, passed]
    exact taints
  · rintro ⟨own, taints⟩
    cases spec with
    | allowAll => cases taints
    | denyAll => cases taints
    | access policy =>
      rw [Situation.requested, contextOf] at taints
      cases passed : (engine.slot.take task.tid).2 with
      | none =>
        rw [passed] at taints
        exact absurd taints AccessPolicy.not_taints_none
      | some flags =>
        rw [passed] at handed taints
        exact .intro own answer registered handed taints

/-- The exit of an open call sets the taint of the caller, if its policy says so, and changes no record
otherwise. -/
theorem find?_next_openExit (sound : engine.Sound) (consistent : engine.Consistent published)
    (described : engine.dispatch.Each (·.isDescribed)) (task : Task) (tid : UInt32) :
    (engine.Taints tid (.event (.openExit task)) ∧
        (engine.next (.event (.openExit task))).processes.find? tid =
          (engine.processes.find? tid).map fun record => { record with tainted := true }) ∨
      (¬ engine.Taints tid (.event (.openExit task)) ∧
        (engine.next (.event (.openExit task))).processes.find? tid =
          engine.processes.find? tid) := by
  have looked := sound.tasks.find?_lookup task.tid
  have bounded := (engine.processes.follows_lookup task.tid).bounded sound.tasks
  have same : engine.next (.event (.openExit task)) = (engine.exitOpen task).value.1 := rfl
  have resolved := resolved_resolveOpen engine task
  rw [same, value_exitOpen]
  generalize outcome : (engine.resolveOpen task).value = result at resolved
  cases resolved with
  | passed => exact .inr ⟨not_taints_of_passed outcome, looked tid⟩
  | consulted => exact .inr ⟨not_taints_of_passed outcome, looked tid⟩
  | @called process profile routine present confined loaded registered =>
    have plain := described _ _ registered
    cases routine with
    | custom => cases plain
    | described spec =>
      have iff : engine.Taints tid (.event (.openExit task)) ↔ _ :=
        taints_iff_of_called present confined loaded registered
      have pid := (consistent.numbered task.tid process present).1
      rw [iff]
      dsimp only [runRoutine, Logged.value_bind, Logged.value_pure, Routine.run, processes]
      by_cases taints : spec.Taints (engine.contextOf task process profile).requested
      · rw [RoutineSpec.processes_run_of_taints taints]
        have modified := bounded.find?_modify process.pid tid fun record : ProcessState =>
          { record with tainted := true }
        rw [looked] at modified
        by_cases own : task.tid = tid
        · rw [if_pos (own.symm.trans pid.symm)] at modified
          exact .inl ⟨⟨own, taints⟩, modified⟩
        · rw [if_neg fun same => own (pid.symm.trans same.symm)] at modified
          exact .inr ⟨fun both => own both.1, modified⟩
      · rw [RoutineSpec.processes_run_of_not_taints taints]
        exact .inr ⟨fun both => taints both.2, looked tid⟩

theorem tainted_next_load (sound : engine.Sound) (loader : UInt32) (executable : Executable)
    (tid : UInt32) :
    ((engine.next (.event (.programLoad loader executable))).processes.find? tid).map
        ProcessState.tainted =
      (engine.processes.find? tid).map ProcessState.tainted := by
  rw [find?_next_load sound]
  split
  case isTrue => cases engine.processes.find? tid <;> rfl
  case isFalse => rfl

theorem find?_next_openEntry (sound : engine.Sound) (task : Task) (flags : OpenFlags)
    (tid : UInt32) :
    (engine.next (.event (.openEntry task flags))).processes.find? tid =
      engine.processes.find? tid := by
  have looked := sound.tasks.find?_lookup task.tid tid
  rwa [← engine.processes_enterOpen task flags] at looked

theorem tainted_next_create (described : engine.dispatch.Each (·.isDescribed)) (sound : engine.Sound)
    {parent group : UInt32}
    {record : ProcessState}
    (found : (engine.next (.event (.processCreate parent tid group))).processes.find? tid =
      some record) : record.tainted = false := by
  have restrained : engine.dispatch.Each Routine.IsRestrained := fun index routine registered =>
    Routine.isRestrained_of_isDescribed (described index routine registered)
  cases descends_next restrained sound found with
  | born => rfl
  | moved loads => cases loads
  | kept unborn => exact absurd rfl (unborn _ _)

/-- A task that is not new is tainted if it was before, or if this is the open call that taints it. -/
theorem tainted_next (sound : engine.Sound) (consistent : engine.Consistent published)
    (described : engine.dispatch.Each (·.isDescribed))
    (unborn : ∀ parent group, operation ≠ .event (.processCreate parent tid group))
    {later : ProcessState} (found : (engine.next operation).processes.find? tid = some later) :
    ∃ record, engine.processes.find? tid = some record ∧
      (later.tainted = true ↔ record.tainted = true ∨ engine.Taints tid operation) := by
  by_cases leaves : ∃ task, operation = .event (.openExit task)
  · obtain ⟨task, rfl⟩ := leaves
    rcases find?_next_openExit sound consistent described task tid with
      ⟨taints, same⟩ | ⟨clean, same⟩
    · rw [found] at same
      obtain ⟨record, present, rfl⟩ := Option.map_eq_some_iff.mp same.symm
      exact ⟨record, present, by simp [taints]⟩
    · rw [found] at same
      exact ⟨later, same.symm, by simp [clean]⟩
  · have clean : ¬ engine.Taints tid operation := by
      rintro ⟨⟩
      exact leaves ⟨_, rfl⟩
    simp only [clean, or_false]
    -- It remains that the operation leaves the taint.
    suffices same : ((engine.next operation).processes.find? tid).map ProcessState.tainted = none ∨
        ((engine.next operation).processes.find? tid).map ProcessState.tainted =
          (engine.processes.find? tid).map ProcessState.tainted by
      rw [found, Option.map_some] at same
      obtain ⟨record, present, equal⟩ :=
        Option.map_eq_some_iff.mp (same.resolve_left (Option.some_ne_none _)).symm
      exact ⟨record, present, by rw [equal]⟩
    cases operation with
    | event event =>
      cases event with
      | processCreate parent child group =>
        refine .inr (congrArg _ (found.trans ?_))
        rcases (Tracker.updated_create sound.tasks parent child group).origin found with
          ⟨rfl, _⟩ | ⟨_, present⟩
        · exact absurd rfl (unborn parent group)
        · exact (present.symm.trans (sound.tasks.find?_lookup parent tid))
      | programLoad loader executable =>
        exact .inr (tainted_next_load sound loader executable tid)
      | processExit gone =>
        rw [find?_next_exit sound]
        split
        case isTrue => exact .inl rfl
        case isFalse => exact .inr rfl
      | openEntry task flags =>
        exact .inr (congrArg _ (find?_next_openEntry sound task flags tid))
      | openExit task => exact absurd ⟨task, rfl⟩ leaves
    | _ => exact .inr (by rw [engine.processes_next rfl])

/-! ## Runs -/

def TaintedAt (start : Engine) (tid : UInt32) (moment : Moment) : Prop :=
  (start.after moment.past).Taints tid moment.operation

/-- What the history of a run tells of the taints of tasks, and what no operation may do to them. -/
structure TaintedByHistory (start : Engine) (operations : List Operation) : Prop where
  record : ∀ tid record, (start.after operations).processes.find? tid = some record →
    ∃ past parent group since,
      Last (Moment.Creates tid) (moments operations)
        ⟨past, .event (.processCreate parent tid group)⟩ since ∧
      (record.tainted = true ↔ ∃ moment ∈ since, start.TaintedAt tid moment)
  /-- A child is not tainted, whatever its parent is. -/
  born : ∀ parent child group process,
    ((start.after operations).perform (.event (.processCreate parent child group))).value.2 =
      .outcome (.tracked process) →
    process.tainted = false ∧
      ((start.after operations).next (.event (.processCreate parent child group))).processes.find?
        child = some process
  loads : ∀ loader executable tid,
    (((start.after operations).next (.event (.programLoad loader executable))).processes.find?
        tid).map ProcessState.tainted =
      ((start.after operations).processes.find? tid).map ProcessState.tainted
  outside : ∀ operation : Operation, operation.isEvent = false →
    ((start.after operations).next operation).processes = (start.after operations).processes
  others : ∀ (task : Task) (tid : UInt32), tid ≠ task.tid →
    (∀ flags, ((start.after operations).next (.event (.openEntry task flags))).processes.find? tid =
      (start.after operations).processes.find? tid) ∧
    ((start.after operations).next (.event (.openExit task))).processes.find? tid =
      (start.after operations).processes.find? tid

variable {config : Config} {terminator : Terminator} {assignments : Assignments}
  {operations : List Operation}

theorem tainted_since (built : (build config terminator assignments).value = .ok start)
    (plain : ∀ operation ∈ operations, operation.isDescribed = true) {record : ProcessState}
    (found : (start.after operations).processes.find? tid = some record) :
    ∃ past parent group since,
      Last (Moment.Creates tid) (moments operations)
        ⟨past, .event (.processCreate parent tid group)⟩ since ∧
      (record.tainted = true ↔ ∃ moment ∈ since, start.TaintedAt tid moment) := by
  induction operations using List.reverseRecOn generalizing record with
  | nil =>
    rw [eq_initial_of_build built, after_nil] at found
    cases (Table.find?_new _ _ _ _ tid).symm.trans found
  | append_singleton earlier operation ih =>
    have before := (List.forall_mem_append.mp plain).1
    have sound := (sound_of_build built).after earlier
    rw [after_concat] at found
    rw [moments_concat]
    by_cases begins : ∃ parent group, operation = .event (.processCreate parent tid group)
    · obtain ⟨parent, group, rfl⟩ := begins
      refine ⟨earlier, parent, group, [], (Last.concat_here ⟨parent, group, rfl⟩).mpr ⟨rfl, rfl⟩, ?_⟩
      simp [tainted_next_create (described_after built before) sound found]
    · have quiet : ¬ Moment.Creates tid ⟨earlier, operation⟩ := begins
      obtain ⟨old, present, tainted⟩ :=
        tainted_next sound (consistent_of_build built (registers_of_plain before))
          (described_after built before) (fun parent group same => begins ⟨parent, group, same⟩) found
      obtain ⟨past, parent, group, since, last, tells⟩ := ih before present
      refine ⟨past, parent, group, _, (Last.concat_quiet quiet).mpr ⟨since, rfl, last⟩, ?_⟩
      simp only [tainted, tells, List.mem_append, List.mem_singleton, or_and_right, exists_or,
        exists_eq_left, TaintedAt]

/-- Where all routines have a description, a task is tainted exactly if one of its own open calls since
its creation was tainted by the policy that it was sent to. -/
theorem tainted_by_history (built : (build config terminator assignments).value = .ok start)
    (plain : ∀ operation ∈ operations, operation.isDescribed = true) :
    start.TaintedByHistory operations := by
  have sound := (sound_of_build built).after operations
  have consistent := consistent_of_build built (registers_of_plain plain)
  have described := described_after built plain
  constructor
  case record => exact fun tid record => tainted_since built plain
  case born =>
    intro parent child group process answer
    obtain ⟨found, rfl⟩ := Tracker.find?_created sound.tasks (created_of_tracked answer)
    exact ⟨rfl, found⟩
  case loads => exact tainted_next_load sound
  case outside => exact fun operation => (start.after operations).processes_next
  case others =>
    intro task tid other
    refine ⟨fun flags => find?_next_openEntry sound task flags tid, ?_⟩
    rcases find?_next_openExit sound consistent described task tid with ⟨⟨own, _⟩, _⟩ | ⟨_, same⟩
    · exact absurd own.symm other
    · exact same

/-- A task that writes under a policy that taints writers, and its child, which does not. -/
theorem tainted_by_history_writer :
    ((pair.after (confinedRun (.described (.access ⟨.none, .onlyWrite, .none⟩)))).processes.find?
        7).map ProcessState.tainted = some true ∧
      ((pair.after (confinedRun (.described (.access ⟨.none, .onlyWrite, .none⟩)))).processes.find?
        8).map ProcessState.tainted = some false ∧
      pair.TaintedByHistory (confinedRun (.described (.access ⟨.none, .onlyWrite, .none⟩))) :=
  ⟨by decide +kernel, by decide +kernel, tainted_by_history build_pair (by decide +kernel)⟩

end Engine

end Confinement
