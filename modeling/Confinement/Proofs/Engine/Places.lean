import Confinement.Proofs.Engine.Provenance
import Confinement.Proofs.Engine.Reachable
import Confinement.Proofs.Engine.Refusals

/-! Profiles and the places of their routines.

An installation fills the place before it loads the profile that points there. So where profiles come from
installations alone, and no routine is ever taken away, no profile points at an empty place, however often
profiles are replaced, removed or evicted, and whichever calls fail on the way.
-/

set_option autoImplicit false

namespace Confinement

def Operation.keepsPlaces : Operation → Bool
  | .addProfile .. | .addProfileForPath .. | .unregisterRoutine _ => false
  | _ => true

namespace Engine

variable {engine start : Engine} {operation : Operation}

def Placed (engine : Engine) : Prop :=
  ∀ key profile, engine.profiles.find? key = some profile →
    ∃ routine, engine.dispatch.get? profile.index = some routine

/-! ## Operations -/

theorem filled_next (keeps : operation.keepsPlaces = true) {place : UInt32} {routine : Routine}
    (filled : engine.dispatch.get? place = some routine) :
    ∃ later, (engine.next operation).dispatch.get? place = some later := by
  refine dispatch_next (fun table => ∃ later, table.get? place = some later) ⟨routine, filled⟩ ?_ ?_
  · intro index other _
    by_cases inside : index.toNat < engine.dispatch.length
    · rw [DispatchTable.register_inside inside]
      by_cases same : place = index
      · exact ⟨other, (engine.get?_withRoutine index other place).trans (if_pos same)⟩
      · exact ⟨routine, (engine.get?_withRoutine index other place).trans ((if_neg same).trans filled)⟩
    · rw [DispatchTable.register_outside (Nat.not_lt.mp inside)]
      exact ⟨routine, filled⟩
  · rintro index rfl
    cases keeps

theorem Receptive.filled_install (receptive : engine.Receptive) {key : ProfileKey} {index : UInt32}
    {routine : Routine} {profile : Profile}
    (installed : (engine.install key index routine).value.2 = .ok profile) :
    (engine.install key index routine).value.1.dispatch.get? profile.index = some routine := by
  rw [receptive.answer_install] at installed
  split_ifs at installed with outside reserved
  cases installed
  have inside := Nat.not_le.mp outside
  rw [install_inside inside, (added_addProfile _ key index).dispatch, get?_withRoutine, if_pos rfl]

theorem Placed.next (placed : engine.Placed) (reachable : engine.Reachable)
    (keeps : operation.keepsPlaces = true) : (engine.next operation).Placed := by
  intro key profile found
  have sound := reachable.linked.sound
  rcases profile_origin sound found with ⟨answer, same, _⟩ | present
  · cases operation with
    | install other index routine =>
      have installed : (engine.install other index routine).value.2 = .ok profile :=
        Response.ofResult_eq_profile.mp answer
      exact ⟨routine, reachable.receptive.filled_install installed⟩
    | removeProfile => cases answer
    | addProfile | addProfileForPath | unregisterRoutine => cases keeps
    | _ => exact absurd ⟨profile, answer, same⟩ (not_loads rfl key)
  · obtain ⟨routine, filled⟩ := placed key profile present
    exact filled_next keeps filled

/-- Where no profile points at an empty place, a confined caller whose profile is loaded is dispatched. -/
theorem Placed.dispatched (placed : engine.Placed) {task : Task} {record : ProcessState}
    {profile : Profile} (present : engine.processes.find? task.tid = some record)
    (confined : record.isConfined = true)
    (loaded : engine.profiles.find? record.profileKey = some profile) :
    ∃ verdict, (engine.exitOpen task).value.2 = .dispatched profile.index verdict := by
  obtain ⟨routine, registered⟩ := placed _ _ loaded
  rw [value_exitOpen, resolveOpen_registered present confined loaded registered]
  exact ⟨_, rfl⟩

theorem Placed.not_missing (placed : engine.Placed) (task : Task) (index : UInt32) :
    (engine.exitOpen task).value.2 ≠ .routineMissing index := by
  rw [value_exitOpen]
  cases present : engine.processes.find? task.tid with
  | none =>
    rw [resolveOpen_untracked present]
    nofun
  | some record =>
    cases confined : record.isConfined with
    | false =>
      rw [resolveOpen_unconfined present confined]
      nofun
    | true =>
      cases loaded : engine.profiles.find? record.profileKey with
      | none =>
        rw [resolveOpen_missing present confined loaded]
        nofun
      | some profile =>
        obtain ⟨routine, registered⟩ := placed _ _ loaded
        rw [resolveOpen_registered present confined loaded registered]
        nofun

/-! ## Runs -/

/-- No call of a run is sent to an empty place. -/
structure Dispatches (start : Engine) (operations : List Operation) : Prop where
  placed : (start.after operations).Placed
  found : ∀ moment ∈ moments operations, ∀ task, moment.operation = .event (.openExit task) →
    ∀ index, start.answer moment ≠ .outcome (.opened (.routineMissing index))
  dispatched : ∀ (task : Task) record profile,
    (start.after operations).processes.find? task.tid = some record → record.isConfined = true →
      (start.after operations).profiles.find? record.profileKey = some profile →
        ∃ verdict, ((start.after operations).exitOpen task).value.2 = .dispatched profile.index verdict

theorem placed_after (reachable : start.Reachable) (placed : start.Placed) {operations : List Operation}
    (keeps : ∀ operation ∈ operations, operation.keepsPlaces = true) :
    (start.after operations).Placed := by
  induction operations generalizing start with
  | nil => exact placed
  | cons operation rest ih =>
    obtain ⟨first, others⟩ := List.forall_mem_cons.mp keeps
    exact ih (reachable.next operation) (placed.next reachable first) others

/-- Where profiles are loaded by installations alone and routines are only replaced, no profile ever points at
an empty place: a confined caller whose profile is loaded is always dispatched. -/
theorem dispatches_of_installations {config : Config} {terminator : Terminator} {assignments : Assignments}
    (built : (build config terminator assignments).value = .ok start) {operations : List Operation}
    (keeps : ∀ operation ∈ operations, operation.keepsPlaces = true) : start.Dispatches operations := by
  have reachable := reachable_of_build built
  have empty : start.Placed := by
    intro key profile found
    rw [eq_initial_of_build built] at found
    have none : (initial config terminator assignments).profiles.find? key = none :=
      Table.find?_new _ _ _ _ key
    rw [none] at found
    cases found
  constructor
  case placed => exact placed_after reachable empty keeps
  case found =>
    intro moment member task exits index missing
    obtain ⟨rest, rfl⟩ := exists_rest_of_mem member
    have placed := placed_after reachable empty (List.forall_mem_append.mp keeps).1
    have answer : start.answer ⟨moment.past, .event (.openExit task)⟩ =
      .outcome (.opened ((start.after moment.past).exitOpen task).value.2) := rfl
    rw [← exits] at answer
    refine placed.not_missing task index ?_
    simpa using answer.symm.trans missing
  case dispatched =>
    intro task record profile present confined loaded
    exact (placed_after reachable empty keeps).dispatched present confined loaded

def movingRun : List Operation :=
  [.install .unconfined 1 (.described .allowAll),
    .install (Executable.profileKey ⟨0, 5⟩) 1 (.described .denyAll),
    .install ⟨9⟩ 0 (.described .allowAll), .removeProfile ⟨9⟩, .registerRoutine 0 (.described .denyAll),
    .event (.openEntry ⟨7, 7⟩ (.forOpen 1 0)), .event (.openExit ⟨7, 7⟩)]

theorem dispatches_of_installations_moving :
    let operations := confinedRun (.described .denyAll) ++ movingRun
    (∀ operation ∈ operations, operation.keepsPlaces = true) ∧
      (pair.run operations).value.2[6]? = some (.failed (.policy .reservedKey)) ∧
      pair.Dispatches operations ∧
      ∃ verdict, ((pair.after operations).exitOpen ⟨7, 7⟩).value.2 = .dispatched 1 verdict := by
  intro operations
  have keeps : ∀ operation ∈ operations, operation.keepsPlaces = true := by
    simp [operations, confinedRun, movingRun, Operation.keepsPlaces]
  have dispatches := dispatches_of_installations build_pair keeps
  refine ⟨keeps, rfl, dispatches, ?_⟩
  exact dispatches.dispatched ⟨7, 7⟩ ⟨7, 7, 7, Executable.profileKey ⟨0, 5⟩, false⟩
    ⟨Executable.profileKey ⟨0, 5⟩, 1⟩ (by decide +kernel) (by decide +kernel) (by decide +kernel)

-- A profile that is loaded by itself may point at an empty place, and so may one whose routine is taken away.
example :
    let last (operation : Operation) :=
      ((pair.after (confinedRun (.described .denyAll) ++ [operation])).exitOpen ⟨7, 7⟩).value.2
    last (.addProfile (Executable.profileKey ⟨0, 5⟩) 1) = .routineMissing 1 ∧
      last (.unregisterRoutine 0) = .routineMissing 0 := by
  decide +kernel

end Engine

end Confinement
