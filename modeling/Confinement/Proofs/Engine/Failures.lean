import Confinement.Engine.Outline
import Confinement.Proofs.Engine.Reachable
import Confinement.Proofs.Engine.Refusals
import Confinement.Proofs.Table.Capacity

/-! Which events and calls an engine fails.

A table with any capacity always makes room, and the table of profiles has some. So only a new task can be
too much, and only for an engine that has no room for any task at all.
-/

set_option autoImplicit false

namespace Confinement

def KernelEvent.isCreation : KernelEvent → Bool
  | processCreate .. => true
  | _ => false

theorem Files.policy_of_executable {files : Files} {path : String} {follow : Bool} {error : Error}
    (failed : files.executable path follow = .error error) : ∃ fault, error = .policy fault := by
  unfold executable at failed
  cases identified : files.identify path follow with
  | error fault =>
    rw [identified] at failed
    cases failed
    exact ⟨_, rfl⟩
  | ok identity =>
    rw [identified] at failed
    dsimp only at failed
    split_ifs at failed
    cases failed
    exact ⟨_, rfl⟩

namespace Engine

variable {engine : Engine} {key : ProfileKey} {index : UInt32} {event : KernelEvent}

/-! ## Events -/

structure Unmoved (before after : Engine) : Prop where
  processes : ∀ tid, after.processes.find? tid = before.processes.find? tid
  profiles : after.profiles = before.profiles
  dispatch : after.dispatch = before.dispatch
  reporter : after.reporter = before.reporter
  slot : after.slot = before.slot
  scriptRuns : after.scriptRuns = before.scriptRuns
  stats : after.stats = before.stats

/-- The statistics depend on how many records of tasks there are and have been evicted, and not on which. -/
theorem stats_congr {before after : Engine} (size : after.processes.size = before.processes.size)
    (evicted : after.processes.evicted = before.processes.evicted)
    (profiles : after.profiles = before.profiles) (dispatch : after.dispatch = before.dispatch)
    (reporter : after.reporter = before.reporter) : after.stats = before.stats := by
  simp only [stats, Table.evictions, bus, size, evicted, profiles, dispatch, reporter]

theorem Reachable.answered_create (reachable : engine.Reachable)
    (some : engine.config.maxProcesses ≠ 0) (parent child group : UInt32) :
    ∃ outcome, (engine.handle (.processCreate parent child group)).value.2 = .ok outcome := by
  obtain ⟨assignments, follows, _⟩ := reachable.origins
  have looked := follows.trans (engine.processes.follows_lookup parent)
  obtain ⟨previous, taken⟩ := looked.update_ok (Nat.one_le_iff_ne_zero.mpr some) child
    (engine.tracker.newborn parent child group)
  exact ⟨_, congrArg (Except.map Outcome.tracked) (Tracker.create_taken taken)⟩

/-- An engine without room for tasks refuses every new one, and nothing comes of it. -/
theorem Reachable.refused_create (reachable : engine.Reachable)
    (none : engine.config.maxProcesses = 0) (parent child group : UInt32) :
    (engine.handle (.processCreate parent child group)).value.2 = .error (.capacity "process" 0) ∧
      engine.Unmoved (engine.handle (.processCreate parent child group)).value.1 := by
  obtain ⟨assignments, follows, _⟩ := reachable.origins
  have bounded := reachable.linked.sound.tasks
  have looked := engine.processes.follows_lookup parent
  have refused := (looked.single (reachable.single none)).update_none (looked.bounded bounded)
    child (engine.tracker.newborn parent child group)
  obtain ⟨answer, found, evicted⟩ := Tracker.create_refused bounded refused
  have profiles := engine.tracker.profiles_create parent child group
  -- Without any capacity there are no records to count, before or after.
  have later := follows.trans (engine.tracker.follows_create parent child group)
  rw [none] at follows later
  have size := (Nat.le_zero.mp later.size_le).trans (Nat.le_zero.mp follows.size_le).symm
  have name : engine.tracker.processes.name = "process" := follows.name
  rw [name] at answer
  exact ⟨congrArg (Except.map Outcome.tracked) answer, found, profiles, rfl, rfl, rfl, rfl,
    stats_congr size evicted profiles rfl rfl⟩

inductive Received (engine : Engine) (event : KernelEvent) : Prop where
  | answered {outcome : Outcome} (possible : event.isCreation = true → engine.config.maxProcesses ≠ 0)
      (answer : (engine.handle event).value.2 = .ok outcome)
  | refused (creation : event.isCreation = true) (none : engine.config.maxProcesses = 0)
      (answer : (engine.handle event).value.2 = .error (.capacity "process" 0))
      (unmoved : engine.Unmoved (engine.handle event).value.1)

theorem Reachable.received (reachable : engine.Reachable) (event : KernelEvent) :
    engine.Received event := by
  cases event with
  | processCreate parent child group =>
    by_cases none : engine.config.maxProcesses = 0
    · obtain ⟨answer, unmoved⟩ := reachable.refused_create none parent child group
      exact .refused rfl none answer unmoved
    · obtain ⟨outcome, answer⟩ := reachable.answered_create none parent child group
      exact .answered (fun _ => none) answer
  | _ => exact .answered nofun rfl

/-! ## Calls of the loader -/

theorem Receptive.not_capacity (receptive : engine.Receptive) {operation : Operation}
    (outside : operation.isEvent = false) (table : String) (capacity : Nat) :
    (engine.perform operation).value.2 ≠ .failed (.capacity table capacity) := by
  cases operation with
  | event event => cases outside
  | addProfile key index =>
    have answer : (engine.perform (.addProfile key index)).value.2 =
      .ofResult .profile (engine.addProfile key index).value.2 := rfl
    rw [answer, receptive.answer_addProfile]
    split_ifs <;> simp [Response.ofResult]
  | addProfileForPath files path index =>
    have answer : (engine.perform (.addProfileForPath files path index)).value.2 =
      .ofResult .profile (engine.addProfileForPath files path index).value.2 := rfl
    rw [answer, addProfileForPath]
    cases identified : files.executable path true with
    | error error =>
      obtain ⟨fault, rfl⟩ := Files.policy_of_executable identified
      simp [Response.ofResult]
    | ok executable =>
      rw [Logged.value_bind, receptive.answer_addProfile]
      split_ifs <;> simp [Response.ofResult]
  | registerRoutine index routine =>
    have answer : (engine.perform (.registerRoutine index routine)).value.2 =
      .ofResult (fun _ => .registered) (engine.registerRoutine index routine).value.2 := rfl
    rw [answer, registerRoutine, Logged.value_bind]
    by_cases inside : index.toNat < engine.dispatch.length
    · rw [DispatchTable.register_inside inside]
      simp [Response.ofResult, Except.map]
    · rw [DispatchTable.register_outside (Nat.not_lt.mp inside)]
      simp [Response.ofResult, Except.map]
  | install key index routine =>
    have answer : (engine.perform (.install key index routine)).value.2 =
      .ofResult .profile (engine.install key index routine).value.2 := rfl
    rw [answer, receptive.answer_install]
    split_ifs <;> simp [Response.ofResult]
  | removeProfile | unregisterRoutine | setMode | drain =>
    intro failed
    cases failed

/-- What fails in an engine, and how. -/
structure Failures (engine : Engine) : Prop where
  events : ∀ event, (∃ error, (engine.handle event).value.2 = .error error) ↔
    event.isCreation = true ∧ engine.config.maxProcesses = 0
  refused : ∀ event error, (engine.handle event).value.2 = .error error →
    error = .capacity "process" 0 ∧ engine.Unmoved (engine.handle event).value.1
  loader : ∀ operation table capacity, operation.isEvent = false →
    (engine.perform operation).value.2 ≠ .failed (.capacity table capacity)

theorem Reachable.failures (reachable : engine.Reachable) : engine.Failures := by
  constructor
  case events =>
    intro event
    cases reachable.received event with
    | answered possible answer =>
      rw [answer]
      exact ⟨nofun, fun both => absurd both.2 (possible both.1)⟩
    | refused creation none answer _ =>
      rw [answer]
      exact ⟨fun _ => ⟨creation, none⟩, fun _ => ⟨_, rfl⟩⟩
  case refused =>
    intro event error failed
    cases reachable.received event with
    | answered _ answer =>
      rw [answer] at failed
      cases failed
    | refused _ _ answer unmoved =>
      rw [answer] at failed
      cases failed
      exact ⟨rfl, unmoved⟩
  case loader => exact fun _ table capacity outside =>
    reachable.receptive.not_capacity outside table capacity

end Engine

end Confinement
