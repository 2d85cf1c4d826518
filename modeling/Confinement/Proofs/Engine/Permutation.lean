import Confinement.Engine.Outline
import Confinement.Proofs.Engine.Reachable
import Confinement.Proofs.Engine.Refusals
import Confinement.Proofs.Table.Permutation

/-! Engines into which the same profiles were loaded in different orders.

The order is left in two places: in the order of use of the profiles, and in the order in which routines
were registered. An engine looks at neither, unless a profile has to give way to another.
-/

set_option autoImplicit false

namespace Confinement

structure DispatchTable.Permuted (first second : DispatchTable) : Prop where
  length : second.length = first.length
  routines : first.routines.Perm second.routines

namespace DispatchTable.Permuted

variable {first second third : DispatchTable}

theorem trans (permuted : first.Permuted second) (again : second.Permuted third) :
    first.Permuted third :=
  ⟨again.length.trans permuted.length, permuted.routines.trans again.routines⟩

theorem registered (permuted : first.Permuted second) : second.registered = first.registered :=
  permuted.routines.length_eq.symm

end DispatchTable.Permuted

namespace Engine

variable {origin profiles : ProfileTable} {dispatch : DispatchTable}
  {engine first second third : Engine} {operation : Operation} {key : ProfileKey} {index : UInt32}

def reloaded (engine : Engine) (profiles : ProfileTable) (dispatch : DispatchTable) : Engine :=
  (engine.withProfiles profiles).withDispatch dispatch

/-- The engines are in the same state, but that profiles and routines were loaded in another order. -/
inductive Permuted (origin : ProfileTable) : Engine → Engine → Prop where
  | intro {engine : Engine} {profiles : ProfileTable} {dispatch : DispatchTable}
      (reachable : engine.Reachable) (again : (engine.reloaded profiles dispatch).Reachable)
      (loaded : origin.Permuted engine.profiles profiles)
      (placed : engine.dispatch.Permuted dispatch) :
      Permuted origin engine (engine.reloaded profiles dispatch)

namespace Permuted

theorem refl (reachable : first.Reachable) (follows : origin.Follows first.profiles) :
    Permuted origin first first :=
  .intro reachable reachable (.refl follows) ⟨rfl, .refl _⟩

theorem trans (permuted : Permuted origin first second) (again : Permuted origin second third) :
    Permuted origin first third := by
  obtain ⟨reachable, _, loaded, placed⟩ := permuted
  obtain ⟨_, further, reloaded, replaced⟩ := again
  exact .intro reachable further (loaded.trans reloaded) (placed.trans replaced)

theorem reporter (permuted : Permuted origin first second) : second.reporter = first.reporter := by
  obtain ⟨_, _, _, _⟩ := permuted
  rfl

theorem stats (permuted : Permuted origin first second) : second.stats = first.stats := by
  obtain ⟨_, _, loaded, placed⟩ := permuted
  have same : ∀ (engine : Engine) (profiles : ProfileTable) (dispatch : DispatchTable),
      (engine.reloaded profiles dispatch).stats =
        { engine.stats with
          profiles := profiles.size
          profileEvictions := .ofNat profiles.evicted
          routines := dispatch.registered } := fun _ _ _ => rfl
  rw [same, loaded.size, loaded.evicted, placed.registered]
  rfl

end Permuted

/-! ## What has nothing to do with profiles -/

theorem create_reloaded (tracker : Tracker) (profiles : ProfileTable) (parent child tgid : UInt32) :
    (Tracker.create { tracker with profiles } parent child tgid).value =
      ({ (tracker.create parent child tgid).value.1 with profiles },
        (tracker.create parent child tgid).value.2) := by
  rw [Tracker.value_create, Tracker.value_create]
  rfl

theorem enterOpen_reloaded (engine : Engine) (profiles : ProfileTable) (dispatch : DispatchTable)
    (task : Task) (flags : OpenFlags) :
    ((engine.reloaded profiles dispatch).enterOpen task flags).value =
      ((engine.enterOpen task flags).value.1.reloaded profiles dispatch,
        (engine.enterOpen task flags).value.2) := by
  cases present : engine.processes.find? task.tid with
  | none =>
    have again : (engine.reloaded profiles dispatch).processes.find? task.tid = none := present
    rw [enterOpen_untracked present, enterOpen_untracked again]
    rfl
  | some record =>
    have again : (engine.reloaded profiles dispatch).processes.find? task.tid = some record := present
    rw [enterOpen_tracked present, enterOpen_tracked again]
    rfl

/-! ## Installations -/

theorem Receptive.next_install (receptive : engine.Receptive) (admits : engine.Admits key index)
    (routine : Routine) :
    engine.next (.install key index routine) =
      (engine.withRoutine index routine).withProfiles (engine.profiles.update key ⟨key, index⟩).1 :=
  congrArg Prod.fst (receptive.install_admitted admits routine)

variable (linked : origin.Each Shard.Linked)
include linked

/-- Where a profile finds room in one of the engines, it does so in the other. -/
theorem Permuted.install (permuted : Permuted origin first second) (admits : first.Admits key index)
    (takes : first.profiles.Takes key) (routine : Routine) :
    second.Admits key index ∧ second.profiles.Takes key ∧
      Permuted origin (first.next (.install key index routine))
        (second.next (.install key index routine)) := by
  obtain @⟨profiles, dispatch, reachable, again, loaded, placed⟩ := permuted
  have other : (first.reloaded profiles dispatch).Admits key index :=
    ⟨admits.confined, placed.length ▸ admits.inside⟩
  have later := reachable.next (.install key index routine)
  have further := again.next (.install key index routine)
  rw [reachable.receptive.next_install admits] at later ⊢
  rw [again.receptive.next_install other] at further ⊢
  refine ⟨other, loaded.takes linked takes, ?_⟩
  exact .intro later further (loaded.update linked takes _)
    ⟨placed.length, Association.put_perm placed.routines index routine⟩

/-- Where two profiles find room one after the other, they may be installed in either order. -/
theorem exchange (reachable : engine.Reachable) (follows : origin.Follows engine.profiles)
    {one other : ProfileKey} {here there : UInt32} (keys : one ≠ other) (places : here ≠ there)
    (admits : engine.Admits one here) (also : engine.Admits other there) {routine another : Routine}
    (takes : engine.profiles.Takes one)
    (later : (engine.next (.install one here routine)).profiles.Takes other) :
    engine.profiles.Takes other ∧
      (engine.next (.install other there another)).profiles.Takes one ∧
      Permuted origin
        ((engine.next (.install one here routine)).next (.install other there another))
        ((engine.next (.install other there another)).next (.install one here routine)) := by
  have step := reachable.next (.install one here routine)
  have turn := reachable.next (.install other there another)
  have last := step.next (.install other there another)
  have finish := turn.next (.install one here routine)
  have after := also.next (.install one here routine)
  have before := admits.next (.install other there another)
  rw [step.receptive.next_install after] at last ⊢
  rw [turn.receptive.next_install before] at finish ⊢
  rw [reachable.receptive.next_install admits] at last later ⊢
  rw [reachable.receptive.next_install also] at finish ⊢
  obtain ⟨early, room⟩ := takes.exchange (Table.bounded_of_linked (follows.linked linked)) keys later
  refine ⟨early, room, .intro last finish
    (Table.permuted_exchange linked follows keys takes later) ⟨rfl, ?_⟩⟩
  exact Association.put_put_perm places routine another engine.dispatch.routines

/-! ## Runs without the loader -/

theorem resolveOpen_reloaded (loaded : origin.Permuted engine.profiles profiles)
    (routines : ∀ index, dispatch.get? index = engine.dispatch.get? index) (task : Task) :
    ∃ later, origin.Permuted (engine.resolveOpen task).value.1.profiles later ∧
      ((engine.reloaded profiles dispatch).resolveOpen task).value =
        ((engine.resolveOpen task).value.1.reloaded later dispatch,
          (engine.resolveOpen task).value.2) := by
  cases present : engine.processes.find? task.tid with
  | none =>
    have again : (engine.reloaded profiles dispatch).processes.find? task.tid = none := present
    rw [resolveOpen_untracked present, resolveOpen_untracked again]
    exact ⟨profiles, loaded, rfl⟩
  | some process =>
    have again : (engine.reloaded profiles dispatch).processes.find? task.tid = some process := present
    cases confined : process.isConfined with
    | false =>
      rw [resolveOpen_unconfined present confined, resolveOpen_unconfined again confined]
      exact ⟨profiles, loaded, rfl⟩
    | true =>
      have consulted := loaded.lookup linked process.profileKey
      have known := loaded.found process.profileKey
      cases found : engine.profiles.find? process.profileKey with
      | none =>
        have missing : (engine.reloaded profiles dispatch).profiles.find? process.profileKey = none :=
          known.trans found
        rw [resolveOpen_missing present confined found, resolveOpen_missing again confined missing]
        exact ⟨_, consulted, rfl⟩
      | some profile =>
        have refound : (engine.reloaded profiles dispatch).profiles.find? process.profileKey =
          some profile := known.trans found
        have same : (engine.reloaded profiles dispatch).dispatch.get? profile.index =
          engine.dispatch.get? profile.index := routines profile.index
        cases registered : engine.dispatch.get? profile.index with
        | none =>
          rw [resolveOpen_unregistered present confined found registered,
            resolveOpen_unregistered again confined refound (same.trans registered)]
          exact ⟨_, consulted, rfl⟩
        | some routine =>
          rw [resolveOpen_registered present confined found registered,
            resolveOpen_registered again confined refound (same.trans registered)]
          exact ⟨_, consulted, rfl⟩

theorem exitOpen_reloaded (loaded : origin.Permuted engine.profiles profiles)
    (routines : ∀ index, dispatch.get? index = engine.dispatch.get? index) (task : Task) :
    ∃ later, origin.Permuted (engine.exitOpen task).value.1.profiles later ∧
      ((engine.reloaded profiles dispatch).exitOpen task).value =
        ((engine.exitOpen task).value.1.reloaded later dispatch, (engine.exitOpen task).value.2) := by
  obtain ⟨later, resolved, same⟩ := resolveOpen_reloaded linked loaded routines task
  refine ⟨later, ?_⟩
  rw [value_exitOpen, value_exitOpen, same]
  generalize (engine.resolveOpen task).value = result at resolved
  obtain ⟨engine, resolution⟩ := result
  cases resolution with
  | passed outcome => exact ⟨resolved, rfl⟩
  | called routine context => exact ⟨resolved, rfl⟩

theorem load_reloaded {tracker : Tracker} (bounded : tracker.processes.Bounded)
    (loaded : origin.Permuted tracker.profiles profiles) (tid : UInt32) (executable : Executable) :
    ∃ later, origin.Permuted (tracker.load tid executable).value.1.profiles later ∧
      (Tracker.load { tracker with profiles } tid executable).value =
        ({ (tracker.load tid executable).value.1 with profiles := later },
          (tracker.load tid executable).value.2) := by
  have consulted := loaded.lookup linked executable.profileKey
  cases present : tracker.processes.find? tid with
  | none =>
    have again : (Tracker.mk tracker.processes profiles).processes.find? tid = none := present
    rw [Tracker.load_untracked present, Tracker.load_untracked again]
    exact ⟨profiles, loaded, rfl⟩
  | some record =>
    have again : (Tracker.mk tracker.processes profiles).processes.find? tid = some record := present
    have same : (Tracker.mk tracker.processes profiles).profiles.find? executable.profileKey =
      tracker.profiles.find? executable.profileKey := loaded.found executable.profileKey
    cases known : tracker.profiles.find? executable.profileKey with
    | none =>
      rw [Tracker.load_unknown present known, Tracker.load_unknown again (same.trans known)]
      exact ⟨_, consulted, rfl⟩
    | some profile =>
      rw [Tracker.load_known bounded present known,
        @Tracker.load_known ⟨tracker.processes, profiles⟩ bounded _ _ _ _ again (same.trans known)]
      exact ⟨_, consulted, rfl⟩

theorem perform_reloaded (sound : engine.Sound) (loaded : origin.Permuted engine.profiles profiles)
    (routines : ∀ index, dispatch.get? index = engine.dispatch.get? index)
    (outside : operation.isLoading = false) :
    ∃ later, origin.Permuted (engine.next operation).profiles later ∧
      ((engine.reloaded profiles dispatch).perform operation).value =
        ((engine.next operation).reloaded later dispatch, (engine.perform operation).value.2) := by
  cases operation with
  | event event =>
    cases event with
    | programLoad tid executable =>
      obtain ⟨later, permuted, same⟩ := load_reloaded linked sound.tasks loaded tid executable
      refine ⟨later, permuted, ?_⟩
      exact congrArg (fun result : Tracker × LoadOutcome =>
        (({ engine with tracker := result.1 } : Engine).withDispatch dispatch,
          Response.outcome (.load result.2))) same
    | openEntry task flags =>
      refine ⟨profiles, (engine.profiles_enterOpen task flags).symm ▸ loaded, ?_⟩
      exact congrArg (Prod.map id fun captured => Response.outcome (.captured captured))
        (enterOpen_reloaded engine profiles dispatch task flags)
    | openExit task =>
      obtain ⟨later, permuted, same⟩ := exitOpen_reloaded linked loaded routines task
      exact ⟨later, permuted,
        congrArg (Prod.map id fun outcome => Response.outcome (.opened outcome)) same⟩
    | processCreate parent child group =>
      have kept : (engine.next (.event (.processCreate parent child group))).profiles = engine.profiles :=
        engine.tracker.profiles_create parent child group
      refine ⟨profiles, kept.symm ▸ loaded, ?_⟩
      exact congrArg (fun result : Tracker × Except Error ProcessState =>
        (({ engine with tracker := result.1 } : Engine).withDispatch dispatch,
          Response.ofResult .outcome (result.2.map .tracked)))
        (create_reloaded engine.tracker profiles parent child group)
    | processExit tid => exact ⟨profiles, loaded, rfl⟩
  | setMode | drain => exact ⟨profiles, loaded, rfl⟩
  | _ => cases outside

theorem Permuted.run (permuted : Permuted origin first second) {operations : List Operation}
    (outside : ∀ operation ∈ operations, operation.isLoading = false) :
    Permuted origin (first.after operations) (second.after operations) ∧
      (second.run operations).value.2 = (first.run operations).value.2 := by
  induction operations generalizing first second with
  | nil => exact ⟨permuted, rfl⟩
  | cons operation rest ih =>
    obtain @⟨profiles, dispatch, reachable, again, loaded, placed⟩ := permuted
    have here := outside operation List.mem_cons_self
    have routines := Association.find?_of_perm reachable.distinct placed.routines
    obtain ⟨later, permuted, same⟩ :=
      perform_reloaded linked reachable.linked.sound loaded routines here
    have further := again.next operation
    have next : (first.reloaded profiles dispatch).next operation =
      (first.next operation).reloaded later dispatch := congrArg (fun result => result.1) same
    rw [next] at further
    obtain ⟨engines, answers⟩ := ih
      (.intro (reachable.next operation) further permuted
        ((dispatch_next_outside here).symm ▸ placed))
      fun other member => outside other (List.mem_cons_of_mem _ member)
    rw [← next] at engines answers
    exact ⟨engines, congrArg₂ List.cons (congrArg (fun result => result.2) same) answers⟩

end Engine

end Confinement
