import Confinement.Engine.Run
import Confinement.Proofs.Engine.Loader
import Confinement.Proofs.Engine.Open

/-! What one operation does to each part of the state of an engine.

Only a creation adds a record of a process, only the loader changes the profiles and the dispatch
table, and only the two ends of an open call touch the captured arguments.
-/

set_option autoImplicit false

namespace Confinement

def Operation.isEvent : Operation → Bool
  | event _ => true
  | _ => false

def Operation.isLifecycle : Operation → Bool
  | event (.processCreate ..) | event (.programLoad ..) | event (.processExit _) => true
  | _ => false

def Operation.changesProfiles : Operation → Bool
  | addProfile .. | addProfileForPath .. | install .. | removeProfile _ => true
  | _ => false

def Operation.isLoading : Operation → Bool
  | event _ | setMode _ | drain _ => false
  | _ => true

def Operation.routine? : Operation → Option Routine
  | registerRoutine _ routine | install _ _ routine => some routine
  | _ => none

/-- The operation registers no routine but one that is as required. -/
def Operation.Registers (required : Routine → Prop) (operation : Operation) : Prop :=
  ∀ routine, operation.routine? = some routine → required routine

theorem Operation.Registers.imp {required weaker : Routine → Prop} {operation : Operation}
    (registers : operation.Registers required) (weaken : ∀ routine, required routine → weaker routine) :
    operation.Registers weaker :=
  fun routine named => weaken routine (registers routine named)

theorem Operation.changesProfiles_of_outside {operation : Operation}
    (outside : operation.isLoading = false) : operation.changesProfiles = false := by
  cases operation with
  | event | setMode | drain => rfl
  | _ => cases outside

@[simp] theorem Response.ofResult_eq_profile {result : Except Error Profile} {loaded : Profile} :
    ofResult profile result = profile loaded ↔ result = .ok loaded := by
  cases result <;> simp [ofResult]

namespace Engine

variable {engine : Engine} {operation : Operation}

/-- The state after an operation. -/
abbrev next (engine : Engine) (operation : Operation) : Engine :=
  (engine.perform operation).value.1

/-! ## The records of processes -/

theorem processes_next (engine : Engine) (outside : operation.isEvent = false) :
    (engine.next operation).processes = engine.processes := by
  cases operation with
  | event => cases outside
  | addProfile key index => exact (engine.added_addProfile key index).processes
  | addProfileForPath files path index =>
    exact (engine.added_addProfileForPath files path index).processes
  | install key index routine => exact (engine.added_install key index routine).processes
  | _ => rfl

theorem created_of_tracked {parent child group : UInt32} {process : ProcessState}
    (tracked : (engine.perform (.event (.processCreate parent child group))).value.2 =
      .outcome (.tracked process)) :
    (engine.tracker.create parent child group).value.2 = .ok process := by
  simp only [perform, handle, Logged.value_bind, Logged.value_pure] at tracked
  generalize (engine.tracker.create parent child group).value.2 = answer at tracked ⊢
  cases answer with
  | error => cases tracked
  | ok => cases tracked; rfl

def Loses (engine : Engine) (operation : Operation) (tid : UInt32) : Prop :=
  operation = .event (.processExit tid) ∨
    ∃ task, operation = .event (.openExit task) ∧ engine.Forgets task tid

/-- Open calls leave of each record all but the taint, unless a routine deletes that of its caller. -/
theorem spared_records (restrained : engine.dispatch.Each Routine.IsRestrained)
    (quiet : operation.isLifecycle = false) :
    Table.Spared ProcessState.untainted (engine.Loses operation) engine.processes
      (engine.next operation).processes := by
  cases outside : operation.isEvent with
  | false => exact engine.processes_next outside ▸ .refl _
  | true =>
    cases operation with
    | event event =>
      cases event with
      | openEntry task flags =>
        have looked := engine.processes.spared_lookup ProcessState.untainted
          (engine.Loses (.event (.openEntry task flags))) task.tid
        rwa [← engine.processes_enterOpen task flags] at looked
      | openExit task =>
        exact (spared_exitOpen restrained task).imp fun _ forgets => .inr ⟨task, rfl, forgets⟩
      | _ => cases quiet
    | _ => cases outside

theorem spared_processes (restrained : engine.dispatch.Each Routine.IsRestrained)
    (bounded : engine.processes.Bounded)
    (adds : ∀ parent child group, operation ≠ .event (.processCreate parent child group)) :
    Table.Spared ProcessState.pid (engine.Loses operation) engine.processes
      (engine.next operation).processes := by
  cases quiet : operation.isLifecycle with
  | false => exact (spared_records restrained quiet).map ProcessState.pid
  | true =>
    cases operation with
    | event event =>
      cases event with
      | processCreate parent child group => exact absurd rfl (adds parent child group)
      | programLoad tid executable =>
        exact (Tracker.retained_load bounded tid executable).imp nofun
      | processExit tid =>
        have deleted := engine.processes.spared_delete ProcessState.pid tid
        exact deleted.imp fun _ same => .inl (by rw [same])
      | _ => cases quiet
    | _ => cases quiet

theorem follows_processes (bounded : engine.processes.Bounded) (operation : Operation) :
    Table.Follows engine.processes (engine.next operation).processes := by
  cases outside : operation.isEvent with
  | false => exact engine.processes_next outside ▸ .refl _
  | true =>
    cases operation with
    | event event =>
      cases event with
      | processCreate parent child group => exact engine.tracker.follows_create parent child group
      | programLoad tid executable => exact (Tracker.retained_load bounded tid executable).follows
      | processExit tid => exact engine.processes.follows_delete tid
      | openEntry task flags =>
        exact engine.processes_enterOpen task flags ▸ engine.processes.follows_lookup task.tid
      | openExit task => exact engine.follows_exitOpen task
    | _ => cases outside

theorem retained_processes (keep : engine.dispatch.Each Routine.KeepsRecords)
    (quiet : operation.isLifecycle = false) :
    Table.Retained ProcessState.untainted engine.processes
      (engine.next operation).processes := by
  have restrained : engine.dispatch.Each Routine.IsRestrained := fun _ _ registered =>
    (keep _ _ registered).isRestrained
  refine (spared_records restrained quiet).imp ?_
  rintro tid (rfl | ⟨_, _, _, _, _, registered, forgets⟩)
  · cases quiet
  · exact forgets (keep _ _ registered)

/-! ## The profiles -/

def Loads (engine : Engine) (operation : Operation) (key : ProfileKey) : Prop :=
  ∃ profile, (engine.perform operation).value.2 = .profile profile ∧ profile.key = key

theorem retained_profiles (bounded : engine.processes.Bounded)
    (quiet : operation.changesProfiles = false) :
    Table.Retained id engine.profiles (engine.next operation).profiles := by
  cases operation with
  | event event =>
    cases event with
    | processCreate parent child group =>
      change Table.Retained id _ (engine.tracker.create parent child group).value.1.profiles
      rw [Tracker.profiles_create]
      exact .refl _
    | programLoad tid executable => exact Tracker.retained_profiles_load bounded tid executable
    | processExit tid => exact .refl _
    | openEntry task flags => exact engine.profiles_enterOpen task flags ▸ .refl _
    | openExit task => exact engine.retained_profiles_exitOpen task
  | registerRoutine | unregisterRoutine | setMode | drain => exact .refl _
  | _ => cases quiet

theorem not_loads (quiet : operation.changesProfiles = false) (key : ProfileKey) :
    ¬ engine.Loads operation key := by
  rintro ⟨profile, answer, _⟩
  cases operation with
  | event event =>
    rw [perform, Logged.value_bind] at answer
    cases outcome : (engine.handle event).value.2 <;> simp [outcome, Response.ofResult] at answer
  | registerRoutine index routine =>
    rw [perform, Logged.value_bind] at answer
    cases outcome : (engine.registerRoutine index routine).value.2 <;>
      simp [outcome, Response.ofResult] at answer
  | unregisterRoutine | setMode | drain => cases answer
  | _ => cases quiet

theorem follows_profiles (bounded : engine.processes.Bounded) (operation : Operation) :
    Table.Follows engine.profiles (engine.next operation).profiles := by
  cases quiet : operation.changesProfiles with
  | false => exact (retained_profiles bounded quiet).follows
  | true =>
    cases operation with
    | addProfile key index => exact (engine.added_addProfile key index).follows
    | addProfileForPath files path index =>
      exact (engine.added_addProfileForPath files path index).follows
    | install key index routine => exact (engine.added_install key index routine).follows
    | removeProfile key => exact engine.profiles.follows_delete key
    | _ => cases quiet

/-- If none gives way to another, a profile is there after an operation that loads it, or that finds
it there and does not remove it. -/
theorem isSome_profile_iff (tasks : engine.processes.Bounded) (bounded : engine.profiles.Bounded)
    (kept : (engine.next operation).profiles.evicted = engine.profiles.evicted)
    (key : ProfileKey) :
    ((engine.next operation).profiles.find? key).isSome ↔
      engine.Loads operation key ∨
        (engine.profiles.find? key).isSome ∧ operation ≠ .removeProfile key := by
  cases quiet : operation.changesProfiles with
  | false =>
    have same := (retained_profiles tasks quiet).found bounded key
    rw [Option.map_id, id, id] at same
    have other : operation ≠ .removeProfile key := by
      rintro rfl
      cases quiet
    simp [same, not_loads quiet, other]
  | true =>
    cases operation with
    | addProfile other index =>
      refine ((engine.added_addProfile other index).isSome_find?_iff bounded kept key).trans ?_
      simp [Loads, perform]
    | addProfileForPath files path index =>
      refine ((engine.added_addProfileForPath files path index).isSome_find?_iff
        bounded kept key).trans ?_
      simp [Loads, perform]
    | install other index routine =>
      refine ((engine.added_install other index routine).isSome_find?_iff
        bounded kept key).trans ?_
      simp [Loads, perform, withDispatch, profiles]
    | removeProfile other =>
      change ((engine.profiles.delete other).1.find? key).isSome ↔ _
      rw [bounded.find?_delete]
      by_cases same : key = other
      · simp [Loads, perform, same]
      · simp [Loads, perform, same, Ne.symm same]
    | _ => cases quiet

/-! ## Routines and captures -/

/-- The dispatch table stays as it is, or one of its places is filled or emptied. -/
theorem dispatch_next (holds : DispatchTable → Prop) (same : holds engine.dispatch)
    (register : ∀ index routine, operation.routine? = some routine →
      holds (engine.dispatch.register index routine).value.1)
    (unregister : ∀ index, operation = .unregisterRoutine index →
      holds (engine.dispatch.unregister index).value.1) :
    holds (engine.next operation).dispatch := by
  cases operation with
  | event event =>
    cases event with
    | openEntry task flags => exact engine.dispatch_enterOpen task flags ▸ same
    | openExit task => exact engine.dispatch_exitOpen task ▸ same
    | _ => exact same
  | addProfile key index => exact (engine.added_addProfile key index).dispatch ▸ same
  | addProfileForPath files path index =>
    exact (engine.added_addProfileForPath files path index).dispatch ▸ same
  | registerRoutine index routine => exact register index routine rfl
  | unregisterRoutine index => exact unregister index rfl
  | install key index routine =>
    exact (engine.added_install key index routine).dispatch ▸ register index routine rfl
  | _ => exact same

theorem dispatch_next_outside (outside : operation.isLoading = false) :
    (engine.next operation).dispatch = engine.dispatch := by
  refine dispatch_next (· = engine.dispatch) rfl ?_ ?_
  · rintro index routine registers
    cases operation with
    | event | setMode | drain => cases registers
    | _ => cases outside
  · rintro index rfl
    cases outside

theorem each_next {required : Routine → Prop} (each : engine.dispatch.Each required)
    (registers : operation.Registers required) : (engine.next operation).dispatch.Each required :=
  dispatch_next (DispatchTable.Each required) each
    (fun index routine named => each.register (registers routine named) index)
    fun index _ => each.unregister index

@[simp] theorem length_dispatch_next (engine : Engine) (operation : Operation) :
    (engine.next operation).dispatch.length = engine.dispatch.length :=
  dispatch_next (fun table => table.length = engine.dispatch.length) rfl
    (fun index routine _ => engine.dispatch.length_register index routine)
    fun index _ => engine.dispatch.length_unregister index

theorem slot_next (enters : ∀ task flags, operation ≠ .event (.openEntry task flags))
    (leaves : ∀ task, operation ≠ .event (.openExit task)) :
    (engine.next operation).slot = engine.slot := by
  cases operation with
  | event event =>
    cases event with
    | openEntry task flags => exact absurd rfl (enters task flags)
    | openExit task => exact absurd rfl (leaves task)
    | _ => rfl
  | addProfile key index => exact (engine.added_addProfile key index).slot
  | addProfileForPath files path index =>
    exact (engine.added_addProfileForPath files path index).slot
  | install key index routine => exact (engine.added_install key index routine).slot
  | _ => rfl

theorem follows_slot (engine : Engine) (operation : Operation) :
    engine.slot.Follows (engine.next operation).slot := by
  by_cases enters : ∃ task flags, operation = .event (.openEntry task flags)
  · obtain ⟨task, flags, rfl⟩ := enters
    exact engine.follows_slot_enterOpen task flags
  by_cases leaves : ∃ task, operation = .event (.openExit task)
  · obtain ⟨task, rfl⟩ := leaves
    have taken := engine.slot.follows_take task.tid
    rwa [← engine.slot_exitOpen task] at taken
  · rw [slot_next fun task flags same => enters ⟨task, flags, same⟩]
    · exact .refl _
    · exact fun task same => leaves ⟨task, same⟩

end Engine

end Confinement
