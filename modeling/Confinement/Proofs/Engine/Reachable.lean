import Confinement.Proofs.Engine.Integrity
import Confinement.Proofs.Table.Single

/-! What holds of every engine that operations lead to, whatever the number of uses of its tables. -/

set_option autoImplicit false

namespace Confinement.Engine

variable {engine : Engine}

@[simp] theorem config_next (engine : Engine) (operation : Operation) :
    (engine.next operation).config = engine.config := by
  cases operation with
  | event event =>
    cases event with
    | openEntry task flags =>
      change (engine.enterOpen task flags).value.1.config = _
      cases present : engine.processes.find? task.tid with
      | none => rw [enterOpen_untracked present]
      | some record => rw [enterOpen_tracked present]
    | openExit task =>
      change (engine.exitOpen task).value.1.config = _
      have resolved := resolved_resolveOpen engine task
      rw [value_exitOpen]
      generalize (engine.resolveOpen task).value = result at resolved
      cases resolved <;> rfl
    | _ => rfl
  | addProfile key index => exact (engine.added_addProfile key index).config
  | addProfileForPath files path index => exact (engine.added_addProfileForPath files path index).config
  | install key index routine => exact (engine.added_install key index routine).config
  | _ => rfl

theorem config_after (engine : Engine) (operations : List Operation) :
    (engine.after operations).config = engine.config := by
  induction operations generalizing engine with
  | nil => rfl
  | cons operation rest ih => exact (ih (engine.next operation)).trans (engine.config_next operation)

theorem reachable_initial {config : Config} (valid : config.validate = .ok ()) (terminator : Terminator)
    (assignments : Assignments) : (initial config terminator assignments).Reachable :=
  ⟨config, terminator, assignments, [], valid, rfl⟩

theorem reachable_of_build {config : Config} {terminator : Terminator} {assignments : Assignments}
    (built : (build config terminator assignments).value = .ok engine) : engine.Reachable := by
  obtain rfl := eq_initial_of_build built
  cases valid : config.validate with
  | error fault =>
    rw [build_of_invalid valid] at built
    cases built
  | ok _ => exact reachable_initial valid terminator assignments

theorem Reachable.after (reachable : engine.Reachable) (operations : List Operation) :
    (engine.after operations).Reachable := by
  obtain ⟨config, terminator, assignments, earlier, valid, rfl⟩ := reachable
  exact ⟨config, terminator, assignments, earlier ++ operations, valid, after_append _ earlier operations⟩

theorem Reachable.next (reachable : engine.Reachable) (operation : Operation) :
    (engine.next operation).Reachable :=
  engine.after_singleton operation ▸ reachable.after [operation]

/-- Whether operations that register no other routines lead from a new engine to this state. -/
def ReachableBy (engine : Engine) (required : Routine → Prop) : Prop :=
  ∃ config terminator assignments operations, config.validate = .ok () ∧
    (∀ operation ∈ operations, operation.Registers required) ∧
      (initial config terminator assignments).after operations = engine

namespace ReachableBy

variable {required : Routine → Prop}

theorem reachable (reachable : engine.ReachableBy required) : engine.Reachable := by
  obtain ⟨config, terminator, assignments, operations, valid, _, rfl⟩ := reachable
  exact ⟨config, terminator, assignments, operations, valid, rfl⟩

theorem each (reachable : engine.ReachableBy required) : engine.dispatch.Each required := by
  obtain ⟨config, terminator, assignments, operations, _, registers, rfl⟩ := reachable
  exact each_after (by rintro _ _ ⟨⟩) registers

theorem next (reachable : engine.ReachableBy required) {operation : Operation}
    (registers : operation.Registers required) : (engine.next operation).ReachableBy required := by
  obtain ⟨config, terminator, assignments, operations, valid, before, rfl⟩ := reachable
  refine ⟨config, terminator, assignments, operations ++ [operation], valid, ?_, after_concat _ _ _⟩
  exact List.forall_mem_append.mpr ⟨before, by simpa using registers⟩

theorem event (reachable : engine.ReachableBy required) (event : KernelEvent) :
    (engine.next (.event event)).ReachableBy required :=
  reachable.next (by rintro _ ⟨⟩)

theorem imp {weaker : Routine → Prop} (reachable : engine.ReachableBy required)
    (weaken : ∀ routine, required routine → weaker routine) : engine.ReachableBy weaker := by
  obtain ⟨config, terminator, assignments, operations, valid, registers, rfl⟩ := reachable
  exact ⟨config, terminator, assignments, operations, valid,
    fun operation member => (registers operation member).imp weaken, rfl⟩

theorem numbered (reachable : engine.ReachableBy Routine.IsRestrained) {tid : UInt32}
    {record : ProcessState} (present : engine.processes.find? tid = some record) :
    record.pid = tid := by
  obtain ⟨config, terminator, assignments, operations, _, registers, rfl⟩ := reachable
  have consistent := consistent_after (by rintro _ _ ⟨⟩) (sound_initial config terminator assignments)
    (consistent_initial config terminator assignments _) registers
  exact (consistent.numbered tid record present).1

end ReachableBy

theorem reachableBy_of_build {config : Config} {terminator : Terminator} {assignments : Assignments}
    (built : (build config terminator assignments).value = .ok engine) {required : Routine → Prop}
    {operations : List Operation}
    (registers : ∀ operation ∈ operations, operation.Registers required) :
    (engine.after operations).ReachableBy required := by
  obtain rfl := eq_initial_of_build built
  cases valid : config.validate with
  | error fault =>
    rw [build_of_invalid valid] at built
    cases built
  | ok _ => exact ⟨config, terminator, assignments, operations, valid, registers, rfl⟩

/-- Each table keeps its stamps in order, whether or not its counters have started over. -/
structure Linked (engine : Engine) : Prop where
  processes : engine.processes.Each Shard.Linked
  profiles : engine.profiles.Each Shard.Linked
  captures : ∀ table, engine.slot = .perThread table → table.Each Shard.Linked

theorem Reachable.linked (reachable : engine.Reachable) : engine.Linked := by
  obtain ⟨config, terminator, assignments, operations, valid, rfl⟩ := reachable
  have sound := sound_initial config terminator assignments
  constructor
  case processes =>
    exact (follows_processes_after sound operations).linked (Table.each_new _ _ _ _ Shard.linked_empty)
  case profiles =>
    exact (follows_profiles_after sound operations).linked (Table.each_new _ _ _ _ Shard.linked_empty)
  case captures =>
    intro table same
    have follows := follows_slot_after (initial config terminator assignments) operations
    rw [Engine.after, same] at follows
    cases place : config.openArgsSlot with
    | perThread =>
      simp only [initial, OpenSlot.new, place] at follows
      cases follows with
      | perThread table => exact table.linked (Table.each_new _ _ _ _ Shard.linked_empty)
    | shared =>
      simp only [initial, OpenSlot.new, place] at follows
      cases follows

theorem Linked.sound (linked : engine.Linked) : engine.Sound :=
  ⟨Table.bounded_of_linked linked.processes, Table.bounded_of_linked linked.profiles⟩

theorem Reachable.ordered (reachable : engine.Reachable) (fresh : engine.processes.Unwrapped) :
    engine.processes.Ordered := by
  obtain ⟨config, terminator, assignments, operations, valid, rfl⟩ := reachable
  have sound := sound_initial config terminator assignments
  exact (follows_processes_after sound operations).ordered fresh
    (Table.each_new _ _ _ _ Shard.ordered_empty)

/-! ## Where the tables come from -/

theorem Reachable.valid (reachable : engine.Reachable) : engine.config.validate = .ok () := by
  obtain ⟨config, terminator, assignments, operations, valid, rfl⟩ := reachable
  have same := (initial config terminator assignments).config_after operations
  rw [Engine.after] at same
  exact same ▸ valid

theorem Reachable.origins (reachable : engine.Reachable) : ∃ assignments : Assignments,
    Table.Follows (Table.new "process" engine.config.maxProcesses engine.config.tableShards
      assignments.process) engine.processes ∧
    Table.Follows (Table.new "profile" engine.config.maxProfiles engine.config.tableShards
      assignments.profile) engine.profiles ∧
    (OpenSlot.new engine.config.openArgsSlot engine.config.maxProcesses engine.config.tableShards
      assignments.openArgs).Follows engine.slot := by
  obtain ⟨config, terminator, assignments, operations, valid, rfl⟩ := reachable
  have same := (initial config terminator assignments).config_after operations
  have sound := sound_initial config terminator assignments
  rw [Engine.after] at same
  rw [same]
  exact ⟨assignments, follows_processes_after sound operations,
    follows_profiles_after sound operations,
    follows_slot_after (initial config terminator assignments) operations⟩

theorem Reachable.roomy (reachable : engine.Reachable) : engine.profiles.Roomy := by
  obtain ⟨assignments, _, follows, _⟩ := reachable.origins
  have some := Nat.one_le_iff_ne_zero.mpr ((Config.validate_iff _).mp reachable.valid).2.1
  exact follows.roomy (Table.roomy_new _ some _ _)

theorem Reachable.places (reachable : engine.Reachable) :
    engine.dispatch.length = engine.config.maxProfiles := by
  obtain ⟨config, terminator, assignments, operations, valid, rfl⟩ := reachable
  refine holds_after (fun engine => engine.dispatch.length = engine.config.maxProfiles) rfl ?_
  intro later _ before
  rw [length_dispatch_next, config_next, before]

theorem Reachable.distinct (reachable : engine.Reachable) :
    (Association.keys engine.dispatch.routines).Nodup := by
  obtain ⟨config, terminator, assignments, operations, valid, rfl⟩ := reachable
  refine holds_after (fun engine => (Association.keys engine.dispatch.routines).Nodup)
    List.nodup_nil fun later _ before => ?_
  refine dispatch_next (fun table => (Association.keys table.routines).Nodup) before ?_ ?_
  · intro index routine _
    unfold DispatchTable.register
    split
    · exact Association.nodup_put before
    · exact before
  · intro index _
    unfold DispatchTable.unregister
    split
    · exact Association.nodup_erase before
    · exact before

/-- An engine without any room for processes has one shard for them, of no capacity. -/
theorem Reachable.single (reachable : engine.Reachable) (none : engine.config.maxProcesses = 0) :
    engine.processes.Single 0 := by
  obtain ⟨assignments, follows, _⟩ := reachable.origins
  rw [none] at follows
  exact follows.single (Table.single_none _ _ _)

theorem Reachable.untracked (reachable : engine.Reachable) (none : engine.config.maxProcesses = 0)
    (tid : UInt32) : engine.processes.find? tid = .none :=
  (reachable.single none).find?_none reachable.linked.sound.tasks tid

end Confinement.Engine
