import Confinement.Engine.Outline
import Confinement.Proofs.Engine.Correspondence
import Confinement.Proofs.Table.Spacious

/-! Two engines that spread their keys differently over their shards, side by side.

As long as every shard of either has room for all the tasks that are ever created and all the profiles
that are ever loaded, the two find the same in their tables, and so decide, report and answer the same.
-/

set_option autoImplicit false

namespace Confinement

variable {tasks : List UInt32} {keys : List ProfileKey}

def Operation.Within (tasks : List UInt32) (keys : List ProfileKey) : Operation → Prop
  | event (.processCreate _ child _) => child ∈ tasks
  | addProfile key _ | install key _ _ => key ∈ keys
  | addProfileForPath files path _ =>
    ∀ executable, files.executable path true = .ok executable → executable.profileKey ∈ keys
  | _ => True

namespace Engine

def twinning (tasks : List UInt32) (keys : List ProfileKey) : Correspondence :=
  ⟨Table.twinning tasks, Table.twinning keys, Table.twinning tasks⟩

structure Twin (tasks : List UInt32) (keys : List ProfileKey) (first second : Engine) : Prop where
  alike : (twinning tasks keys).Alike first second
  described : first.dispatch.Each (·.isDescribed)

variable {first second : Engine}

theorem allowed_twinning (first second : Engine) : (twinning tasks keys).Allowed first second :=
  ⟨⟨trivial, trivial⟩, fun _ _ _ _ => trivial⟩

namespace Twin

theorem stats (twin : first.Twin tasks keys second) :
    second.stats = first.stats ∧ first.stats.processEvictions = 0 ∧
      first.stats.profileEvictions = 0 := by
  have processes : Table.Twin tasks first.processes second.processes := twin.alike.tracker.processes
  have profiles : Table.Twin keys first.profiles second.profiles := twin.alike.tracker.profiles
  refine ⟨?_, processes.spacious.evictions, profiles.spacious.evictions⟩
  simp only [Engine.stats, Engine.bus, processes.size, profiles.size, processes.spacious.evictions,
    processes.other.evictions, profiles.spacious.evictions, profiles.other.evictions,
    twin.alike.dispatch, twin.alike.reporter]

theorem covers (twin : first.Twin tasks keys second) {operation : Operation}
    (within : operation.Within tasks keys) : (twinning tasks keys).Covers first operation := by
  cases operation with
  | event event =>
    cases event with
    | processCreate parent child group => exact ⟨trivial, within⟩
    | programLoad tid executable => exact ⟨trivial, trivial⟩
    | processExit tid => trivial
    | openEntry task flags =>
      -- A tracked caller has been created, so that its arguments have room as well.
      refine ⟨trivial, fun tracked => ?_⟩
      obtain ⟨record, present⟩ := Option.ne_none_iff_exists'.mp tracked
      have processes : Table.Twin tasks first.processes second.processes := twin.alike.tracker.processes
      exact processes.spacious.mem_of_find? present
    | openExit task =>
      refine ⟨trivial, trivial, fun record _ =>
        ⟨trivial, trivial, fun profile routine _ _ registered => ?_⟩⟩
      obtain ⟨spec, rfl⟩ := Routine.exists_spec (twin.described _ _ registered)
      exact (spec.within (fun _ _ => Context.Aligned.fits_of_isPlain) _ _).requests _
  | addProfile key index | addProfileForPath files path index | install key index routine =>
    exact within
  | removeProfile key => trivial
  | registerRoutine index routine | unregisterRoutine index | setMode mode | drain channel => trivial

/-- Two engines alike stay so, and give the same answers, however long they run. -/
theorem run (twin : first.Twin tasks keys second) {operations : List Operation}
    (plain : ∀ operation ∈ operations, operation.Registers (·.isDescribed))
    (within : ∀ operation ∈ operations, operation.Within tasks keys) :
    (first.after operations).Twin tasks keys (second.after operations) ∧
      (second.run operations).value.2 = (first.run operations).value.2 := by
  obtain ⟨engines, answers⟩ := twin.alike.run twin.described plain
    (fun _ _ alike described operation member =>
      covers ⟨alike, described⟩ (within operation member)) (allowed_twinning _ _)
  exact ⟨⟨engines, each_after twin.described plain⟩, answers⟩

end Twin

/-! ### New engines -/

/-- Each shard of an engine of this configuration has room for all these tasks, or profiles. -/
structure Ample (tasks : List UInt32) (keys : List ProfileKey) (config : Config) : Prop where
  processes : tasks.length ≤
    config.maxProcesses / Table.shardCount config.maxProcesses config.tableShards
  profiles : keys.length ≤
    config.maxProfiles / Table.shardCount config.maxProfiles config.tableShards

theorem Ample.single {config : Config} (ample : Ample tasks keys config) :
    Ample tasks keys { config with tableShards := 1 } where
  processes := by
    rw [Table.shardCount_one, Nat.div_one]
    exact Nat.le_trans ample.processes (Nat.div_le_self _ _)
  profiles := by
    rw [Table.shardCount_one, Nat.div_one]
    exact Nat.le_trans ample.profiles (Nat.div_le_self _ _)

theorem twin_initial {config : Config} (terminator : Terminator) (first second : Assignments)
    {shards : Nat} (ample : Ample tasks keys config)
    (again : Ample tasks keys { config with tableShards := shards }) :
    Twin tasks keys (initial config terminator first)
      (initial { config with tableShards := shards } terminator second) where
  alike.tracker.processes := Table.twin_new _ _ ample.processes again.processes _
  alike.tracker.profiles := Table.twin_new _ _ ample.profiles again.profiles _
  alike.slot := by
    unfold initial OpenSlot.new
    dsimp only
    cases config.openArgsSlot with
    | perThread => exact .perThread (Table.twin_new _ _ ample.processes again.processes _)
    | shared => exact .shared
  alike.dispatch := rfl
  alike.reporter := rfl
  alike.scriptRuns := rfl
  described := by rintro _ _ ⟨⟩

end Engine

end Confinement
