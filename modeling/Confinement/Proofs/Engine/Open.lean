import Confinement.Proofs.Engine.Loader

/-! What the two ends of an open call do to the state of the engine. -/

set_option autoImplicit false

namespace Confinement

namespace OpenSlot

@[simp] theorem value_capture_perThread (table : Table UInt32 OpenFlags) (tid : UInt32)
    (flags : OpenFlags) :
    ((perThread table).capture tid flags).value =
      (perThread (table.update tid flags).1, (table.update tid flags).2.toBool) := rfl

@[simp] theorem take_perThread (table : Table UInt32 OpenFlags) (tid : UInt32) :
    (perThread table).take tid = (perThread (table.delete tid).1, table.find? tid) := by
  rw [take, Table.delete_eq]

inductive Follows : OpenSlot → OpenSlot → Prop where
  | perThread {before after : Table UInt32 OpenFlags} (table : Table.Follows before after) :
      Follows (.perThread before) (.perThread after)
  | shared {before after : Option OpenFlags} : Follows (.shared before) (.shared after)

theorem Follows.refl (slot : OpenSlot) : Follows slot slot := by
  cases slot with
  | perThread table => exact .perThread (.refl table)
  | shared flags => exact .shared

theorem Follows.trans {before middle after : OpenSlot} (first : Follows before middle)
    (second : Follows middle after) : Follows before after := by
  cases first with
  | perThread first =>
    cases second with
    | perThread second => exact .perThread (first.trans second)
  | shared =>
    cases second with
    | shared => exact .shared

theorem Follows.mode {before after : OpenSlot} (follows : Follows before after) :
    after.mode = before.mode := by
  cases follows <;> rfl

theorem follows_capture (slot : OpenSlot) (tid : UInt32) (flags : OpenFlags) :
    Follows slot (slot.capture tid flags).value.1 := by
  cases slot with
  | perThread table => exact .perThread (table.follows_update tid flags)
  | shared => exact .shared

theorem follows_take (slot : OpenSlot) (tid : UInt32) : Follows slot (slot.take tid).1 := by
  cases slot with
  | perThread table => exact .perThread (table.follows_delete tid)
  | shared => exact .shared

end OpenSlot

namespace Engine

variable {engine : Engine} {task : Task}

/-! ## Entry -/

theorem enterOpen_untracked (absent : engine.processes.find? task.tid = none) (flags : OpenFlags) :
    (engine.enterOpen task flags).value =
      ({ engine with tracker :=
          { engine.tracker with processes := (engine.processes.lookup task.tid).1 } }, false) := by
  rw [← Table.answer_lookup] at absent
  simp only [enterOpen, absent]
  rfl

theorem enterOpen_tracked {record : ProcessState}
    (present : engine.processes.find? task.tid = some record) (flags : OpenFlags) :
    (engine.enterOpen task flags).value =
      ({ engine with
          tracker := { engine.tracker with processes := (engine.processes.lookup task.tid).1 }
          slot := (engine.slot.capture task.tid flags).value.1 },
        (engine.slot.capture task.tid flags).value.2) := by
  rw [← Table.answer_lookup] at present
  simp only [enterOpen, present]
  rfl

@[simp] theorem processes_enterOpen (engine : Engine) (task : Task) (flags : OpenFlags) :
    (engine.enterOpen task flags).value.1.processes = (engine.processes.lookup task.tid).1 := by
  cases present : engine.processes.find? task.tid with
  | none => rw [enterOpen_untracked present]; rfl
  | some record => rw [enterOpen_tracked present]; rfl

@[simp] theorem profiles_enterOpen (engine : Engine) (task : Task) (flags : OpenFlags) :
    (engine.enterOpen task flags).value.1.profiles = engine.profiles := by
  cases present : engine.processes.find? task.tid with
  | none => rw [enterOpen_untracked present]; rfl
  | some record => rw [enterOpen_tracked present]; rfl

@[simp] theorem dispatch_enterOpen (engine : Engine) (task : Task) (flags : OpenFlags) :
    (engine.enterOpen task flags).value.1.dispatch = engine.dispatch := by
  cases present : engine.processes.find? task.tid with
  | none => rw [enterOpen_untracked present]
  | some record => rw [enterOpen_tracked present]

@[simp] theorem reporter_enterOpen (engine : Engine) (task : Task) (flags : OpenFlags) :
    (engine.enterOpen task flags).value.1.reporter = engine.reporter := by
  cases present : engine.processes.find? task.tid with
  | none => rw [enterOpen_untracked present]
  | some record => rw [enterOpen_tracked present]

theorem follows_slot_enterOpen (engine : Engine) (task : Task) (flags : OpenFlags) :
    engine.slot.Follows (engine.enterOpen task flags).value.1.slot := by
  cases present : engine.processes.find? task.tid with
  | none => rw [enterOpen_untracked present]; exact .refl _
  | some record => rw [enterOpen_tracked present]; exact engine.slot.follows_capture task.tid flags

theorem value_enterOpen_shared {cell : Option OpenFlags} (place : engine.slot = .shared cell)
    (task : Task) (flags : OpenFlags) :
    (engine.enterOpen task flags).value.1.slot =
        .shared (if engine.processes.contains task.tid then some flags else cell) ∧
      (engine.enterOpen task flags).value.2 = engine.processes.contains task.tid := by
  cases present : engine.processes.find? task.tid with
  | none =>
    rw [enterOpen_untracked present, Table.contains, present]
    exact ⟨place, rfl⟩
  | some record =>
    rw [enterOpen_tracked present, Table.contains, present, place]
    exact ⟨rfl, rfl⟩

/-! ## Exit -/

def left (engine : Engine) (task : Task) : Engine :=
  { engine with
    slot := (engine.slot.take task.tid).1
    tracker := { engine.tracker with processes := (engine.processes.lookup task.tid).1 } }

def consulted (engine : Engine) (key : ProfileKey) : Engine :=
  { engine with
    tracker := { engine.tracker with profiles := (engine.profiles.lookup key).1 } }

def contextOf (engine : Engine) (task : Task) (process : ProcessState) (profile : Profile) :
    Context where
  task
  process
  profile
  flags := (engine.slot.take task.tid).2
  processes := (engine.processes.lookup task.tid).1
  reporter := engine.reporter
  verdict := .allowed
  memory := engine.scriptRuns

theorem resolveOpen_untracked (absent : engine.processes.find? task.tid = none) :
    (engine.resolveOpen task).value = (engine.left task, .passed .passThrough) := by
  rw [← Table.answer_lookup] at absent
  simp only [resolveOpen, absent]
  rfl

theorem resolveOpen_unconfined {process : ProcessState}
    (present : engine.processes.find? task.tid = some process)
    (unconfined : process.isConfined = false) :
    (engine.resolveOpen task).value = (engine.left task, .passed .unconfined) := by
  rw [← Table.answer_lookup] at present
  simp only [resolveOpen, present, unconfined]
  rfl

theorem resolveOpen_missing {process : ProcessState}
    (present : engine.processes.find? task.tid = some process)
    (confined : process.isConfined = true)
    (missing : engine.profiles.find? process.profileKey = none) :
    (engine.resolveOpen task).value =
      ((engine.left task).consulted process.profileKey,
        .passed (.profileMissing process.profileKey)) := by
  rw [← Table.answer_lookup] at present missing
  rw [profiles] at missing
  simp only [resolveOpen, present, confined, if_true, profiles, missing]
  rfl

theorem resolveOpen_unregistered {process : ProcessState} {profile : Profile}
    (present : engine.processes.find? task.tid = some process)
    (confined : process.isConfined = true)
    (loaded : engine.profiles.find? process.profileKey = some profile)
    (unregistered : engine.dispatch.get? profile.index = none) :
    (engine.resolveOpen task).value =
      ((engine.left task).consulted process.profileKey,
        .passed (.routineMissing profile.index)) := by
  rw [← Table.answer_lookup] at present loaded
  rw [profiles] at loaded
  simp only [resolveOpen, present, confined, if_true, profiles, loaded, unregistered]
  rfl

theorem resolveOpen_registered {process : ProcessState} {profile : Profile} {routine : Routine}
    (present : engine.processes.find? task.tid = some process)
    (confined : process.isConfined = true)
    (loaded : engine.profiles.find? process.profileKey = some profile)
    (registered : engine.dispatch.get? profile.index = some routine) :
    (engine.resolveOpen task).value =
      ((engine.left task).consulted process.profileKey,
        .called routine (engine.contextOf task process profile)) := by
  rw [← Table.answer_lookup] at present loaded
  rw [profiles] at loaded
  simp only [resolveOpen, present, confined, if_true, profiles, loaded, registered]
  rfl

inductive Resolved (engine : Engine) (task : Task) : Engine × Resolution → Prop where
  | passed {outcome : OpenOutcome}
      (undecided : ∀ index verdict, outcome ≠ .dispatched index verdict) :
      Resolved engine task (engine.left task, .passed outcome)
  | consulted {key : ProfileKey} {outcome : OpenOutcome}
      (undecided : ∀ index verdict, outcome ≠ .dispatched index verdict) :
      Resolved engine task ((engine.left task).consulted key, .passed outcome)
  | called {process : ProcessState} {profile : Profile} {routine : Routine}
      (present : engine.processes.find? task.tid = some process)
      (confined : process.isConfined = true)
      (loaded : engine.profiles.find? process.profileKey = some profile)
      (registered : engine.dispatch.get? profile.index = some routine) :
      Resolved engine task ((engine.left task).consulted process.profileKey,
        .called routine (engine.contextOf task process profile))

theorem resolved_resolveOpen (engine : Engine) (task : Task) :
    engine.Resolved task (engine.resolveOpen task).value := by
  cases present : engine.processes.find? task.tid with
  | none =>
    rw [resolveOpen_untracked present]
    exact .passed nofun
  | some process =>
    cases confined : process.isConfined with
    | false =>
      rw [resolveOpen_unconfined present confined]
      exact .passed nofun
    | true =>
      cases loaded : engine.profiles.find? process.profileKey with
      | none =>
        rw [resolveOpen_missing present confined loaded]
        exact .consulted nofun
      | some profile =>
        cases registered : engine.dispatch.get? profile.index with
        | none =>
          rw [resolveOpen_unregistered present confined loaded registered]
          exact .consulted nofun
        | some routine =>
          rw [resolveOpen_registered present confined loaded registered]
          exact .called present confined loaded registered

/-- The arguments that the exit of an open call hands to a routine, if it calls one. -/
def handed? (engine : Engine) (task : Task) : Option (Option OpenFlags) :=
  match (engine.resolveOpen task).value.2 with
  | .passed _ => none
  | .called _ context => some context.flags

theorem value_exitOpen (engine : Engine) (task : Task) :
    (engine.exitOpen task).value =
      match (engine.resolveOpen task).value with
      | (engine, .passed outcome) => (engine, outcome)
      | (engine, .called routine context) =>
        ((engine.runRoutine routine context).value.1,
          .dispatched context.profile.index (engine.runRoutine routine context).value.2) := by
  rw [exitOpen, Logged.value_bind]
  generalize (engine.resolveOpen task).value = result
  obtain ⟨engine, resolution⟩ := result
  cases resolution with
  | passed outcome => rfl
  | called routine context =>
    rw [Logged.value_bind]
    cases verdict : (engine.runRoutine routine context).value.2 with
    | allowed => simp [verdict]
    | denied mode => simp [verdict]

theorem isSome_handed?_iff (engine : Engine) (task : Task) :
    (engine.handed? task).isSome ↔
      ∃ index verdict, (engine.exitOpen task).value.2 = .dispatched index verdict := by
  have resolved := resolved_resolveOpen engine task
  rw [handed?, value_exitOpen]
  generalize (engine.resolveOpen task).value = result at resolved
  cases resolved with
  | passed undecided => simpa using undecided
  | consulted undecided => simpa using undecided
  | called => simp

theorem eq_of_handed? {flags : Option OpenFlags} (handed : engine.handed? task = some flags) :
    flags = (engine.slot.take task.tid).2 := by
  have resolved := resolved_resolveOpen engine task
  rw [handed?] at handed
  generalize (engine.resolveOpen task).value = result at resolved handed
  cases resolved with
  | passed => cases handed
  | consulted => cases handed
  | called => exact (Option.some.inj handed).symm

theorem tracked_of_handed? {flags : Option OpenFlags} (handed : engine.handed? task = some flags) :
    engine.processes.find? task.tid ≠ none := by
  have resolved := resolved_resolveOpen engine task
  rw [handed?] at handed
  generalize (engine.resolveOpen task).value = result at resolved handed
  cases resolved with
  | passed => cases handed
  | consulted => cases handed
  | called present => simp [present]

theorem slot_exitOpen (engine : Engine) (task : Task) :
    (engine.exitOpen task).value.1.slot = (engine.slot.take task.tid).1 := by
  have resolved := resolved_resolveOpen engine task
  rw [value_exitOpen]
  generalize (engine.resolveOpen task).value = result at resolved
  cases resolved <;> rfl

theorem dispatch_exitOpen (engine : Engine) (task : Task) :
    (engine.exitOpen task).value.1.dispatch = engine.dispatch := by
  have resolved := resolved_resolveOpen engine task
  rw [value_exitOpen]
  generalize (engine.resolveOpen task).value = result at resolved
  cases resolved <;> rfl

theorem retained_profiles_exitOpen (engine : Engine) (task : Task) :
    Table.Retained id engine.profiles (engine.exitOpen task).value.1.profiles := by
  have resolved := resolved_resolveOpen engine task
  rw [value_exitOpen]
  generalize (engine.resolveOpen task).value = result at resolved
  cases resolved with
  | passed => exact .refl _
  | consulted => exact engine.profiles.spared_lookup id _ _
  | called => exact engine.profiles.spared_lookup id _ _

theorem follows_exitOpen (engine : Engine) (task : Task) :
    Table.Follows engine.processes (engine.exitOpen task).value.1.processes := by
  have looked := engine.processes.follows_lookup task.tid
  have resolved := resolved_resolveOpen engine task
  rw [value_exitOpen]
  generalize (engine.resolveOpen task).value = result at resolved
  cases resolved with
  | passed | consulted => exact looked
  | @called process profile routine =>
    exact looked.trans (routine.follows_run (engine.contextOf task process profile))

/-- The exit of an open call may cost a task its record: a routine is called that deletes records. -/
inductive Forgets (engine : Engine) (task : Task) : UInt32 → Prop where
  | intro {record : ProcessState} {profile : Profile} {routine : Routine}
      (present : engine.processes.find? task.tid = some record)
      (confined : record.isConfined = true)
      (loaded : engine.profiles.find? record.profileKey = some profile)
      (registered : engine.dispatch.get? profile.index = some routine)
      (forgets : ¬ routine.KeepsRecords) : Forgets engine task record.pid

theorem spared_exitOpen (restrained : engine.dispatch.Each Routine.IsRestrained) (task : Task) :
    Table.Spared ProcessState.untainted (engine.Forgets task) engine.processes
      (engine.exitOpen task).value.1.processes := by
  have looked := engine.processes.spared_lookup ProcessState.untainted (engine.Forgets task) task.tid
  have resolved := resolved_resolveOpen engine task
  rw [value_exitOpen]
  generalize (engine.resolveOpen task).value = result at resolved
  cases resolved with
  | passed => exact looked
  | consulted => exact looked
  | @called process profile routine present confined loaded registered =>
    have ran := (restrained _ _ registered).spared_run (engine.contextOf task process profile)
    refine looked.trans (ran.imp ?_)
    rintro tid ⟨forgets, rfl⟩
    exact .intro present confined loaded registered forgets

end Engine

end Confinement
