import Confinement.Proofs.Engine.Lives
import Confinement.Proofs.Table.Single

/-! Captures that tasks leave behind.

The slot has as many places as the process table. With one shard each, a capture is refused or pushes
another one out only where a capture waits for a task that is no longer tracked. Such captures are
left behind by nothing but the exit of a task whose capture waits.
-/

set_option autoImplicit false

namespace Confinement.Engine

variable {engine start : Engine} {operations : List Operation} {operation : Operation}
  {capacity : Nat} {tid : UInt32}

structure Paired (engine : Engine) (capacity : Nat) : Prop where
  tasks : engine.processes.Single capacity
  captures : ∃ table, engine.slot = .perThread table ∧ table.Single capacity

theorem paired_initial {config : Config} (perThread : config.openArgsSlot = .perThread)
    (single : config.tableShards = 1) (terminator : Terminator) (assignments : Assignments) :
    (initial config terminator assignments).Paired config.maxProcesses where
  tasks := by
    change Table.Single (Table.new _ config.maxProcesses config.tableShards _) _
    rw [single]
    exact Table.single_new _ _ _
  captures := by
    refine ⟨Table.new "open_args" config.maxProcesses config.tableShards assignments.openArgs, ?_, ?_⟩
    · rw [initial, perThread]
      rfl
    · rw [single]
      exact Table.single_new _ _ _

theorem Paired.after (paired : start.Paired capacity) (sound : start.Sound)
    (operations : List Operation) : (start.after operations).Paired capacity where
  tasks := (follows_processes_after sound operations).single paired.tasks
  captures := by
    obtain ⟨table, slot, single⟩ := paired.captures
    have follows := start.follows_slot_after operations
    rw [slot] at follows
    generalize (start.after operations).slot = later at follows
    cases follows with
    | perThread table => exact ⟨_, rfl, table.single single⟩

/-- A capture waits for a task that is not tracked. -/
def HasLeftover (engine : Engine) : Prop :=
  ∃ tid, engine.slot.waiting? tid ≠ none ∧ engine.processes.find? tid = none

theorem hasLeftover_of_full (paired : engine.Paired capacity) (sound : engine.Sound)
    (threaded : engine.slot.Threaded) (tracked : engine.processes.find? tid ≠ none)
    (empty : engine.slot.waiting? tid = none) (full : engine.slot.Full tid) :
    engine.HasLeftover := by
  obtain ⟨table, slot, single⟩ := paired.captures
  simp only [HasLeftover, slot, OpenSlot.waiting?_perThread] at *
  by_contra none
  -- Without a leftover all captures belong to tracked tasks, and the task itself has none.
  have among : ∀ other, table.find? other ≠ .none → engine.processes.find? other ≠ .none :=
    fun other waits absent => none ⟨other, waits, absent⟩
  cases threaded with
  | intro bounded =>
    have room := single.lt_of_missing bounded paired.tasks sound.tasks among empty tracked
    exact Nat.not_lt.mpr full room

def Abandons (start : Engine) (moment : Moment) : Prop :=
  ∃ tid, (start.after moment.past).slot.waiting? tid ≠ none ∧
    (moment.Creates tid ∨ moment.operation = .event (.processExit tid))

/-! ## States without leftovers -/

structure Tidy (engine : Engine) : Prop where
  numbered : ∀ tid record, engine.processes.find? tid = some record → record.pid = tid
  clean : ¬ engine.HasLeftover

theorem Idle.tidy (idle : start.Idle) : start.Tidy where
  numbered tid record found := by
    rw [idle.untracked tid] at found
    cases found
  clean := fun ⟨tid, waits, _⟩ => waits (idle.empty tid)

/-- A record is that of a new task, or was there before under the same number, or is lost. -/
theorem record_next (restrained : engine.dispatch.Each Routine.IsRestrained) (sound : engine.Sound)
    (kept : (engine.next operation).processes.evicted = engine.processes.evicted) (tid : UInt32) :
    (∃ record, (engine.next operation).processes.find? tid = some record ∧ record.pid = tid) ∨
      engine.Loses operation tid ∧ (engine.next operation).processes.find? tid = none ∨
      ((engine.next operation).processes.find? tid).map ProcessState.pid =
        (engine.processes.find? tid).map ProcessState.pid := by
  by_cases adds : ∃ parent child group, operation = .event (.processCreate parent child group)
  · obtain ⟨parent, child, group, rfl⟩ := adds
    rcases Tracker.kept_create sound.tasks kept tid with ⟨rfl, found⟩ | same
    · exact .inl ⟨_, found, rfl⟩
    · exact .inr (.inr (congrArg (Option.map ProcessState.pid) same))
  · have spared := spared_processes restrained sound.tasks fun parent child group same =>
      adds ⟨parent, child, group, same⟩
    exact .inr (spared.spared sound.tasks tid)

/-- What waits for a thread after an operation waited before or belongs to a tracked task, and the
operation is not an exit of the thread. -/
theorem waiting?_next (threaded : (start.after operations).slot.Threaded)
    (waits : ((start.after operations).next operation).slot.waiting? tid ≠ none) :
    ((start.after operations).slot.waiting? tid ≠ none ∨
        (∃ flags, Moment.Enters tid flags ⟨operations, operation⟩) ∧
          (start.after operations).processes.find? tid ≠ none) ∧
      ¬ Moment.Leaves tid ⟨operations, operation⟩ := by
  refine ⟨?_, fun leaves => waits (waiting?_of_leaves threaded leaves)⟩
  by_cases newest : start.CapturesOrLeaves tid ⟨operations, operation⟩
  · rcases newest with ⟨flags, captures⟩ | leaves
    · exact .inr ⟨⟨flags, captures.1⟩, tracked_of_captures threaded captures⟩
    · exact absurd (waiting?_of_leaves threaded leaves) waits
  · rcases waiting?_of_quiet threaded newest with same | pushed
    · exact .inl (same ▸ waits)
    · exact .inl pushed.2.1

theorem Tidy.next (tidy : (start.after operations).Tidy)
    (restrained : (start.after operations).dispatch.Each Routine.IsRestrained)
    (sound : (start.after operations).Sound)
    (threaded : (start.after operations).slot.Threaded)
    (kept : ((start.after operations).next operation).processes.evicted =
      (start.after operations).processes.evicted)
    (together : ¬ start.Abandons ⟨operations, operation⟩) :
    ((start.after operations).next operation).Tidy := by
  constructor
  · intro tid record found
    rcases record_next restrained sound kept tid with ⟨newborn, stored, own⟩ | ⟨_, gone⟩ | same
    · rw [stored, Option.some.injEq] at found
      exact found ▸ own
    · rw [gone] at found
      cases found
    · rw [found, Option.map_some] at same
      obtain ⟨earlier, present, pid⟩ := Option.map_eq_some_iff.mp same.symm
      exact pid.symm.trans (tidy.numbered tid earlier present)
  · rintro ⟨tid, waits, absent⟩
    obtain ⟨source, stays⟩ := waiting?_next threaded waits
    have tracked : (start.after operations).processes.find? tid ≠ none := by
      rcases source with waited | ⟨_, tracked⟩
      · exact fun absent => tidy.clean ⟨tid, waited, absent⟩
      · exact tracked
    rcases record_next restrained sound kept tid with ⟨newborn, stored, _⟩ | ⟨loses, _⟩ | same
    · rw [stored] at absent
      cases absent
    · rcases loses with rfl | ⟨task, rfl, found, _⟩
      · rcases source with waited | ⟨⟨_, _, _, enter⟩, _⟩
        · exact together ⟨tid, waited, .inr rfl⟩
        · cases enter
      · exact stays ⟨task, (tidy.numbered task.tid _ found).symm, rfl⟩
    · rw [absent, Option.map_none, eq_comm, Option.map_eq_none_iff] at same
      exact tracked same

/-- As long as no task is created or exits while its capture waits, none is left behind. -/
theorem Idle.tidy_after (idle : start.Idle) (restrained : start.Restrained operations)
    (kept : (start.after operations).processes.evicted = 0)
    (together : ∀ moment ∈ moments operations, ¬ start.Abandons moment) :
    (start.after operations).Tidy := by
  induction operations using List.reverseRecOn with
  | nil => exact idle.tidy
  | append_singleton earlier operation ih =>
    have sound := idle.sound.after earlier
    have follows := follows_processes sound.tasks operation
    rw [after_concat] at kept ⊢
    simp only [Restrained, moments_concat, List.forall_mem_append] at restrained together
    -- The count of evictions only grows, so it was zero all along.
    have before : (start.after earlier).processes.evicted = 0 :=
      Nat.le_zero.mp (kept ▸ follows.evicted)
    have tidy := ih restrained.1 before together.1
    have newest : Moment.mk earlier operation ∈ [⟨earlier, operation⟩] := List.mem_singleton_self _
    exact tidy.next (restrained.2 _ newest) sound (threaded_after idle.threaded earlier)
      (kept.trans before.symm) (together.2 _ newest)

/-! ## Runs without leftovers -/

theorem hasLeftover_of_pushesOut {moment : Moment} (idle : start.Idle)
    (paired : start.Paired capacity) (pushed : start.PushesOut tid moment) :
    (start.after moment.past).HasLeftover := by
  obtain ⟨past, operation⟩ := moment
  obtain ⟨⟨task, flags, other, rfl⟩, waits, gone⟩ := pushed
  have threaded := threaded_after idle.threaded past
  have entered := entered_next threaded task flags
  generalize ((start.after past).enterOpen task flags).value.2 = answer at entered
  cases entered with
  | untracked _ same => exact absurd (same ▸ gone) waits
  | tracked present captured =>
    cases captured with
    | refused _ _ same => exact absurd ((same tid).symm.trans gone) waits
    | kept _ others => exact absurd ((others tid other.symm).symm.trans gone) waits
    | pushing _ empty full _ _ =>
      exact hasLeftover_of_full (paired.after idle.sound past) (idle.sound.after past) threaded
        present empty full

theorem not_leaks_of_together (idle : start.Idle)
    (together : ∀ moment ∈ moments operations, ¬ start.Abandons moment) :
    ¬ start.Leaks tid operations := by
  rintro ⟨flags, entry, since, last, captures, ⟨birth, member, creates⟩, kept⟩
  have waits := waiting?_within idle last captures kept member
  obtain ⟨before, split⟩ := last.split
  have inside : birth ∈ moments operations := by simp [split, member]
  exact together birth inside ⟨tid, by simp [waits], .inl creates⟩

theorem Idle.tidy_at {before since : List Moment} {moment : Moment} (idle : start.Idle)
    (restrained : start.Restrained operations)
    (kept : (start.after operations).processes.evicted = 0)
    (together : ∀ moment ∈ moments operations, ¬ start.Abandons moment)
    (split : moments operations = before ++ moment :: since) :
    (start.after moment.past).Tidy := by
  obtain ⟨rfl, rest, same, _⟩ := moments_split split
  have follows := follows_processes_after (idle.sound.after moment.past) (moment.operation :: rest)
  rw [← after_append, ← same] at follows
  have earlier : ∀ other ∈ moments moment.past, other ∈ moments operations := fun other member => by
    simp [split, member]
  exact idle.tidy_after (fun other member => restrained other (earlier other member))
    (Nat.le_zero.mp (kept ▸ follows.evicted)) fun other member => together other (earlier other member)

theorem not_misses_of_together (restrained : start.Restrained operations) (idle : start.Idle)
    (paired : start.Paired capacity)
    (kept : (start.after operations).processes.evicted = 0)
    (tracked : (start.after operations).processes.find? tid ≠ none)
    (together : ∀ moment ∈ moments operations, ¬ start.Abandons moment) :
    ¬ start.Misses tid operations := by
  rintro ⟨creation, life, entry, since, flags, born, hooked, enters, lost⟩
  obtain ⟨before, split, alive⟩ := split_life born hooked
  rcases lost with refused | ⟨moment, member, pushed⟩
  · have present := tracked_of_enters restrained idle.sound split enters alive tracked
    obtain ⟨empty, full, _⟩ := waiting?_of_refused idle.threaded enters present refused
    refine (idle.tidy_at restrained kept together split).clean ?_
    exact hasLeftover_of_full (paired.after idle.sound entry.past) (idle.sound.after entry.past)
      (threaded_after idle.threaded entry.past) present empty full
  · obtain ⟨early, late, rfl, within⟩ := split_within split member
    exact (idle.tidy_at restrained kept together within).clean (hasLeftover_of_pushesOut idle paired pushed)

/-! ## What is handed to a routine -/

/-- A routine is handed exactly what its caller passed in its present life, unless the caller finds a
capture from before that, or its own was refused or pushed out. With one shard none of these can
happen as long as no task is created or exits while its capture waits, and a capture is only ever
pushed out where one has been left behind by another task. -/
theorem handed_iff_passed {config : Config} {terminator : Terminator} {assignments : Assignments}
    (built : (build config terminator assignments).value = .ok start)
    (perThread : config.openArgsSlot = .perThread) (single : config.tableShards = 1)
    (registers : ∀ operation ∈ operations, operation.Registers Routine.IsRestrained)
    (kept : (start.after operations).processes.evicted = 0) {task : Task}
    {handed : Option OpenFlags} (called : (start.after operations).handed? task = some handed) :
    ((∀ flags, handed = some flags ↔ PassedInLife task.tid flags operations) ↔
      ¬ start.Leaks task.tid operations ∧ ¬ start.Misses task.tid operations) ∧
    ((∀ moment ∈ moments operations, ¬ start.Abandons moment) →
      ∀ flags, handed = some flags ↔ PassedInLife task.tid flags operations) ∧
    ∀ tid, ∀ moment ∈ moments operations, start.PushesOut tid moment →
      (start.after moment.past).HasLeftover := by
  have idle := idle_initial perThread terminator assignments
  have paired := paired_initial perThread single terminator assignments
  rw [← eq_initial_of_build built] at idle paired
  have restrained : start.Restrained operations := fun _ member =>
    each_at (each_of_build built _) registers member
  have tracked := tracked_of_handed? called
  have exactly := waiting?_iff_passed restrained idle tracked
  rw [← handed?_eq called] at exactly
  refine ⟨exactly, fun together => exactly.mpr ⟨?_, ?_⟩, fun tid moment _ pushed => ?_⟩
  · exact not_leaks_of_together idle together
  · exact not_misses_of_together restrained idle paired kept tracked together
  · exact hasLeftover_of_pushesOut idle paired pushed

def recycled : List Operation :=
  [.install (Executable.profileKey ⟨0, 5⟩) 0 (.described .denyAll),
    .event (.processCreate 0 7 7), .event (.programLoad 7 ⟨0, 5⟩), .event (.processCreate 7 8 8),
    .event (.openEntry ⟨8, 8⟩ (.forOpen 1 0)), .event (.processExit 8),
    .event (.processCreate 7 8 8)]

/-- The routine is handed arguments that its caller never passed. -/
theorem handed_iff_passed_recycled :
    (pair.after recycled).handed? ⟨8, 8⟩ = some (some (.forOpen 1 0)) ∧
      ¬ ∀ flags, some (.forOpen 1 0) = some flags ↔ PassedInLife 8 flags recycled := by
  have called : (pair.after recycled).handed? ⟨8, 8⟩ = some (some (.forOpen 1 0)) := by
    decide +kernel
  refine ⟨called, fun own => ?_⟩
  have registers : ∀ operation ∈ recycled, operation.Registers Routine.IsRestrained := by
    simpa [recycled, Operation.Registers, Operation.routine?] using
      (RoutineSpec.denyAll.keepsRecords).isRestrained
  have bounds := (handed_iff_passed build_pair rfl rfl registers (by decide +kernel) called).1.mp own
  have captures : pair.Captures 8 (.forOpen 1 0)
      ⟨recycled.take 4, .event (.openEntry ⟨8, 8⟩ (.forOpen 1 0))⟩ :=
    captures_iff.mpr ⟨rfl, rfl, by decide +kernel⟩
  have creates : Moment.Creates 8 ⟨recycled.take 6, .event (.processCreate 7 8 8)⟩ := ⟨7, 8, rfl⟩
  refine bounds.1 ⟨_, _, [⟨recycled.take 5, _⟩, ⟨recycled.take 6, _⟩],
    ⟨⟨moments (recycled.take 4), rfl⟩, .inl ⟨_, captures⟩, ?_⟩, captures, ⟨_, by simp, creates⟩, ?_⟩
  · simp [CapturesOrLeaves, Captures, Moment.Enters, Moment.Leaves]
  · simp [PushesOut]

end Confinement.Engine
