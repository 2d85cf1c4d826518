import Confinement.Engine.Loader
import Confinement.Proofs.Lifecycle
import Confinement.Proofs.Routine

/-! What the loading of profiles and routines does to the state of the engine. -/

set_option autoImplicit false

namespace Confinement.Engine

def withProfiles (engine : Engine) (profiles : ProfileTable) : Engine :=
  { engine with tracker := { engine.tracker with profiles } }

structure Admits (engine : Engine) (key : ProfileKey) (index : UInt32) : Prop where
  confined : key.isUnconfined = false
  inside : index.toNat < engine.dispatch.length

variable {engine : Engine} {key : ProfileKey} {index : UInt32}

theorem addProfile_reserved (reserved : key.isUnconfined = true) (index : UInt32) :
    (engine.addProfile key index).value = (engine, .error (.policy .reservedKey)) := by
  rw [addProfile, if_pos reserved]
  rfl

theorem addProfile_outside (confined : key.isUnconfined = false)
    (outside : engine.dispatch.length ≤ index.toNat) :
    (engine.addProfile key index).value =
      (engine, .error (.dispatchIndex index engine.dispatch.length)) := by
  rw [addProfile, if_neg (by simp [confined]), if_pos outside]
  rfl

theorem value_addProfile (admits : engine.Admits key index) :
    (engine.addProfile key index).value =
      let (profiles, answer) := engine.profiles.update key ⟨key, index⟩
      (engine.withProfiles profiles, match answer with
        | .ok _ => .ok ⟨key, index⟩
        | .error failure => .error (.capacity profiles.name failure.capacity)) := by
  rw [addProfile, if_neg (by simp [admits.confined]), if_neg (Nat.not_le.mpr admits.inside),
    Logged.value_bind, Table.value_put]
  generalize engine.profiles.update key ⟨key, index⟩ = updated
  obtain ⟨profiles, answer⟩ := updated
  cases answer <;> rfl

theorem addProfile_admitted (admits : engine.Admits key index) {previous : Option Profile}
    (taken : (engine.profiles.update key ⟨key, index⟩).2 = .ok previous) :
    (engine.addProfile key index).value =
      (engine.withProfiles (engine.profiles.update key ⟨key, index⟩).1, .ok ⟨key, index⟩) := by
  rw [value_addProfile admits]
  dsimp only
  rw [taken]

inductive Added (engine : Engine) : Engine × Except Error Profile → Prop where
  | rejected {error : Error} : Added engine (engine, .error error)
  | full {key : ProfileKey} {index : UInt32} {failure : Exhausted} {error : Error}
      (refused : (engine.profiles.update key ⟨key, index⟩).2 = .error failure) :
      Added engine (engine.withProfiles (engine.profiles.update key ⟨key, index⟩).1, .error error)
  | taken {key : ProfileKey} {index : UInt32} {previous : Option Profile}
      (admits : engine.Admits key index)
      (taken : (engine.profiles.update key ⟨key, index⟩).2 = .ok previous) :
      Added engine (engine.withProfiles (engine.profiles.update key ⟨key, index⟩).1,
        .ok ⟨key, index⟩)

theorem added_addProfile (engine : Engine) (key : ProfileKey) (index : UInt32) :
    engine.Added (engine.addProfile key index).value := by
  unfold addProfile
  by_cases reserved : key.isUnconfined = true
  · rw [if_pos reserved]
    exact .rejected
  · rw [if_neg reserved]
    by_cases outside : engine.dispatch.length ≤ index.toNat
    · rw [if_pos outside]
      exact .rejected
    · rw [if_neg outside, Logged.value_bind, Table.value_put]
      dsimp only
      cases answer : (engine.profiles.update key ⟨key, index⟩).2 with
      | error failure => exact .full answer
      | ok previous => exact .taken ⟨by simpa using reserved, Nat.not_le.mp outside⟩ answer

theorem added_addProfileForPath (engine : Engine) (files : Files) (path : String)
    (index : UInt32) : engine.Added (engine.addProfileForPath files path index).value := by
  unfold addProfileForPath
  cases files.executable path true with
  | error error => exact .rejected
  | ok executable => exact engine.added_addProfile executable.profileKey index

namespace Added

variable {engine : Engine} {result : Engine × Except Error Profile}

theorem processes (added : engine.Added result) : result.1.processes = engine.processes := by
  cases added <;> rfl

theorem slot (added : engine.Added result) : result.1.slot = engine.slot := by
  cases added <;> rfl

theorem reporter (added : engine.Added result) : result.1.reporter = engine.reporter := by
  cases added <;> rfl

theorem dispatch (added : engine.Added result) : result.1.dispatch = engine.dispatch := by
  cases added <;> rfl

theorem config (added : engine.Added result) : result.1.config = engine.config := by
  cases added <;> rfl

theorem follows (added : engine.Added result) :
    Table.Follows engine.profiles result.1.profiles := by
  cases added with
  | rejected => exact .refl _
  | full => exact engine.profiles.follows_update _ _
  | taken => exact engine.profiles.follows_update _ _

/-- A profile is there afterwards if it was loaded just now, or was there before. -/
theorem isSome_find?_iff (added : engine.Added result) (bounded : engine.profiles.Bounded)
    (kept : result.1.profiles.evicted = engine.profiles.evicted) (key : ProfileKey) :
    (result.1.profiles.find? key).isSome ↔
      (∃ profile, result.2 = .ok profile ∧ profile.key = key) ∨
        (engine.profiles.find? key).isSome := by
  cases added with
  | rejected => simp
  | @full other index failure error refused =>
    have updated := Table.updated_update bounded other ⟨other, index⟩
    rw [refused] at updated
    cases updated with
    | refused _ _ found _ =>
      change (Table.find? (engine.profiles.update other ⟨other, index⟩).1 key).isSome ↔ _
      simp [found]
  | @taken other index previous _ taken =>
    have updated := Table.updated_update bounded other ⟨other, index⟩
    have found : ∀ key, Table.find? (engine.profiles.update other ⟨other, index⟩).1 key =
        if key = other then some ⟨other, index⟩ else engine.profiles.find? key := by
      rw [taken] at updated
      cases updated with
      | replaced _ found _ => exact found
      | inserted _ found _ => exact found
      | evicting _ _ _ _ evicted =>
        have kept : (engine.profiles.update other ⟨other, index⟩).1.evicted = _ := kept
        omega
    change (Table.find? (engine.profiles.update other ⟨other, index⟩).1 key).isSome ↔ _
    rw [found]
    by_cases same : key = other
    · simp [same]
    · simp [same, Ne.symm same]

end Added

/-! ## Routines -/

def withDispatch (engine : Engine) (dispatch : DispatchTable) : Engine :=
  { engine with dispatch }

theorem value_registerRoutine (engine : Engine) (index : UInt32) (routine : Routine) :
    (engine.registerRoutine index routine).value.1 =
      engine.withDispatch (engine.dispatch.register index routine).value.1 := rfl

/-- An installation loads a profile over the registered routine, or registers nothing. -/
theorem added_install (engine : Engine) (key : ProfileKey) (index : UInt32) (routine : Routine) :
    (engine.withDispatch (engine.dispatch.register index routine).value.1).Added
      (engine.install key index routine).value := by
  rw [install, Logged.value_bind, ← value_registerRoutine]
  generalize (engine.registerRoutine index routine).value = registered
  obtain ⟨engine, answer⟩ := registered
  cases answer with
  | error error => exact .rejected
  | ok _ => exact engine.added_addProfile key index

end Confinement.Engine

namespace Confinement.DispatchTable

variable {table : DispatchTable} {index : UInt32}

theorem register_inside (inside : index.toNat < table.length) (routine : Routine) :
    (table.register index routine).value =
      ({ table with routines := Association.put index routine table.routines },
        .ok (table.get? index)) := by
  rw [register, if_pos inside]
  rfl

theorem register_outside (outside : table.length ≤ index.toNat) (routine : Routine) :
    (table.register index routine).value =
      (table, .error (.dispatchIndex index table.length)) := by
  rw [register, if_neg (Nat.not_lt.mpr outside)]
  rfl

def Each (required : Routine → Prop) (table : DispatchTable) : Prop :=
  ∀ index routine, table.get? index = some routine → required routine

@[simp] theorem length_register (table : DispatchTable) (index : UInt32) (routine : Routine) :
    (table.register index routine).value.1.length = table.length := by
  unfold register
  split <;> rfl

@[simp] theorem length_unregister (table : DispatchTable) (index : UInt32) :
    (table.unregister index).value.1.length = table.length := by
  unfold unregister
  split <;> rfl

variable {required : Routine → Prop}

theorem Each.register (each : table.Each required) {routine : Routine}
    (meets : required routine) (index : UInt32) :
    (table.register index routine).value.1.Each required := by
  unfold DispatchTable.register
  split
  · intro other found stored
    change Association.find? other (Association.put index routine table.routines) = _ at stored
    rw [Association.find?_put] at stored
    by_cases same : other = index
    · rw [if_pos same, Option.some.injEq] at stored
      exact stored ▸ meets
    · rw [if_neg same] at stored
      exact each other found stored
  · exact each

theorem Each.unregister (each : table.Each required) (index : UInt32) :
    (table.unregister index).value.1.Each required := by
  unfold DispatchTable.unregister
  cases table.get? index with
  | none => exact each
  | some routine =>
    intro other found stored
    change Association.find? other (Association.erase index table.routines) = _ at stored
    rw [Association.find?_erase] at stored
    by_cases same : other = index
    · simp [same] at stored
    · rw [if_neg same] at stored
      exact each other found stored

end Confinement.DispatchTable

namespace Confinement.Engine

variable {engine : Engine} {index : UInt32}

/-! ## Installations -/

def withRoutine (engine : Engine) (index : UInt32) (routine : Routine) : Engine :=
  engine.withDispatch
    { engine.dispatch with routines := Association.put index routine engine.dispatch.routines }

theorem get?_withRoutine (engine : Engine) (index : UInt32) (routine : Routine) (place : UInt32) :
    (engine.withRoutine index routine).dispatch.get? place =
      if place = index then some routine else engine.dispatch.get? place :=
  Association.find?_put index place routine engine.dispatch.routines

theorem install_outside (outside : engine.dispatch.length ≤ index.toNat) (key : ProfileKey)
    (routine : Routine) :
    (engine.install key index routine).value =
      (engine, .error (.dispatchIndex index engine.dispatch.length)) := by
  rw [install, Logged.value_bind, registerRoutine, Logged.value_bind,
    DispatchTable.register_outside outside]
  rfl

theorem install_inside (inside : index.toNat < engine.dispatch.length) (key : ProfileKey)
    (routine : Routine) :
    (engine.install key index routine).value =
      ((engine.withRoutine index routine).addProfile key index).value := by
  rw [install, Logged.value_bind, registerRoutine, Logged.value_bind,
    DispatchTable.register_inside inside]
  rfl

end Confinement.Engine
