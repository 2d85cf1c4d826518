import Confinement.Proofs.Engine.History

/-! What the loader leaves behind where it refuses a call.

The table of profiles always has room for one more, so that a call is refused for its arguments alone,
and mostly before anything is written. Only an installation writes twice: its routine is in place before
the key of the profile is checked.
-/

set_option autoImplicit false

namespace Confinement

/-- A table in use never refuses an update, whether or not its counters have started over. -/
theorem Table.Follows.update_ok {κ α : Type} [DecidableEq κ] {name : String} {capacity shards : Nat}
    {assignment : κ → UInt64} {table : Table κ α}
    (follows : Follows (new name capacity shards assignment) table) (some : 1 ≤ capacity) (key : κ)
    (value : α) : ∃ previous, (table.update key value).2 = .ok previous :=
  (follows.linked (each_new _ _ _ _ Shard.linked_empty)).update_ok
    (follows.roomy (roomy_new _ some _ _)) key value

namespace Engine

variable {engine : Engine} {key : ProfileKey} {index : UInt32}

/-- The table of profiles takes every update. -/
def Receptive (engine : Engine) : Prop :=
  ∀ key profile, ∃ previous, (engine.profiles.update key profile).2 = .ok previous

theorem Reachable.receptive (reachable : engine.Reachable) : engine.Receptive := by
  obtain ⟨config, terminator, assignments, operations, valid, rfl⟩ := reachable
  intro key profile
  have sound := sound_initial config terminator assignments
  have some := Nat.one_le_iff_ne_zero.mpr ((Config.validate_iff config).mp valid).2.1
  exact (follows_profiles_after sound operations).update_ok some key profile

theorem Receptive.addProfile_admitted (receptive : engine.Receptive)
    (admits : engine.Admits key index) :
    (engine.addProfile key index).value =
      (engine.withProfiles (engine.profiles.update key ⟨key, index⟩).1, .ok ⟨key, index⟩) := by
  obtain ⟨previous, taken⟩ := receptive key ⟨key, index⟩
  exact Engine.addProfile_admitted admits taken

theorem Receptive.answer_addProfile (receptive : engine.Receptive) (key : ProfileKey)
    (index : UInt32) :
    (engine.addProfile key index).value.2 =
      if key.isUnconfined then .error (.policy .reservedKey)
      else if engine.dispatch.length ≤ index.toNat then
        .error (.dispatchIndex index engine.dispatch.length)
      else .ok ⟨key, index⟩ := by
  cases reserved : key.isUnconfined with
  | true => rw [addProfile_reserved reserved, if_pos rfl]
  | false =>
    rw [if_neg Bool.false_ne_true]
    by_cases inside : index.toNat < engine.dispatch.length
    · rw [receptive.addProfile_admitted ⟨reserved, inside⟩, if_neg (Nat.not_le.mpr inside)]
    · rw [addProfile_outside reserved (Nat.not_lt.mp inside), if_pos (Nat.not_lt.mp inside)]

/-- A profile is refused for its arguments alone, and then nothing is written. -/
theorem Receptive.unchanged_addProfile (receptive : engine.Receptive) {error : Error}
    (refused : (engine.addProfile key index).value.2 = .error error) :
    (engine.addProfile key index).value.1 = engine := by
  cases reserved : key.isUnconfined with
  | true => rw [addProfile_reserved reserved]
  | false =>
    by_cases inside : index.toNat < engine.dispatch.length
    · rw [receptive.addProfile_admitted ⟨reserved, inside⟩] at refused
      cases refused
    · rw [addProfile_outside reserved (Nat.not_lt.mp inside)]

theorem Receptive.unchanged_addProfileForPath (receptive : engine.Receptive) {files : Files}
    {path : String} {error : Error}
    (refused : (engine.addProfileForPath files path index).value.2 = .error error) :
    (engine.addProfileForPath files path index).value.1 = engine := by
  unfold addProfileForPath at refused ⊢
  cases identified : files.executable path true with
  | error fault => rfl
  | ok executable =>
    rw [identified] at refused
    exact receptive.unchanged_addProfile refused

theorem unchanged_registerRoutine {routine : Routine} {error : Error}
    (refused : (engine.registerRoutine index routine).value.2 = .error error) :
    (engine.registerRoutine index routine).value.1 = engine := by
  by_cases inside : index.toNat < engine.dispatch.length
  · rw [registerRoutine, Logged.value_bind, DispatchTable.register_inside inside] at refused
    cases refused
  · rw [value_registerRoutine, DispatchTable.register_outside (Nat.not_lt.mp inside)]
    rfl

/-! ## Installations -/

theorem Receptive.answer_install (receptive : engine.Receptive) (key : ProfileKey) (index : UInt32)
    (routine : Routine) :
    (engine.install key index routine).value.2 =
      if engine.dispatch.length ≤ index.toNat then
        .error (.dispatchIndex index engine.dispatch.length)
      else if key.isUnconfined then .error (.policy .reservedKey)
      else .ok ⟨key, index⟩ := by
  have again : (engine.withRoutine index routine).Receptive := receptive
  have length : (engine.withRoutine index routine).dispatch.length = engine.dispatch.length := rfl
  by_cases inside : index.toNat < engine.dispatch.length
  · rw [install_inside inside, again.answer_addProfile, length, if_neg (Nat.not_le.mpr inside),
      if_neg (Nat.not_le.mpr inside)]
  · rw [install_outside (Nat.not_lt.mp inside), if_pos (Nat.not_lt.mp inside)]

theorem Receptive.install_admitted (receptive : engine.Receptive) (admits : engine.Admits key index)
    (routine : Routine) :
    (engine.install key index routine).value =
      ((engine.withRoutine index routine).withProfiles (engine.profiles.update key ⟨key, index⟩).1,
        .ok ⟨key, index⟩) := by
  have again : (engine.withRoutine index routine).Receptive := receptive
  rw [install_inside admits.inside]
  exact again.addProfile_admitted ⟨admits.confined, admits.inside⟩

theorem Receptive.admits_of_install (receptive : engine.Receptive) {routine : Routine}
    {profile : Profile} (installed : (engine.install key index routine).value.2 = .ok profile) :
    engine.Admits key index := by
  rw [receptive.answer_install] at installed
  split_ifs at installed with outside reserved
  exact ⟨Bool.eq_false_iff.mpr reserved, Nat.not_le.mp outside⟩

/-- The routine of a refused installation stays where only the key of the profile is at fault. -/
theorem Receptive.left_install (receptive : engine.Receptive) {routine : Routine} {error : Error}
    (refused : (engine.install key index routine).value.2 = .error error) :
    (engine.install key index routine).value.1 =
      if key = .unconfined ∧ index.toNat < engine.dispatch.length then
        engine.withRoutine index routine
      else engine := by
  have again : (engine.withRoutine index routine).Receptive := receptive
  by_cases inside : index.toNat < engine.dispatch.length
  · rw [install_inside inside] at refused ⊢
    rw [again.unchanged_addProfile refused]
    cases reserved : key.isUnconfined with
    | true => rw [if_pos ⟨key.isUnconfined_iff.mp reserved, inside⟩]
    | false =>
      rw [again.addProfile_admitted ⟨reserved, inside⟩] at refused
      cases refused
  · rw [install_outside (Nat.not_lt.mp inside), if_neg fun both => inside both.2]

/-- What the loader leaves of an engine where it refuses a call. -/
structure Refusals (engine : Engine) : Prop where
  addProfile : ∀ key index error, (engine.addProfile key index).value.2 = .error error →
    (engine.addProfile key index).value.1 = engine
  addProfileForPath : ∀ files path index error,
    (engine.addProfileForPath files path index).value.2 = .error error →
      (engine.addProfileForPath files path index).value.1 = engine
  registerRoutine : ∀ index routine error,
    (engine.registerRoutine index routine).value.2 = .error error →
      (engine.registerRoutine index routine).value.1 = engine
  install : ∀ key index routine error,
    (engine.install key index routine).value.2 = .error error →
      (engine.install key index routine).value.1 =
        if key = .unconfined ∧ index.toNat < engine.dispatch.length then
          engine.withRoutine index routine
        else engine
  replaced : ∀ key index routine error place,
    (engine.install key index routine).value.2 = .error error →
      (engine.install key index routine).value.1.dispatch.get? place =
        if key = .unconfined ∧ index.toNat < engine.dispatch.length ∧ place = index then
          some routine
        else engine.dispatch.get? place
  installed : ∀ key index routine,
    (∃ profile, (engine.install key index routine).value.2 = .ok profile) ↔ engine.Admits key index

/-- A refused call of the loader changes nothing, but for an installation under the reserved key at a
place that exists: that replaces the routine of the place, and nothing else. -/
theorem refusals_of_reachable (reachable : engine.Reachable) : engine.Refusals := by
  have receptive := reachable.receptive
  have again : ∀ index routine, (engine.withRoutine index routine).Receptive := fun _ _ => receptive
  constructor
  case addProfile => exact fun _ _ _ => receptive.unchanged_addProfile
  case addProfileForPath => exact fun _ _ _ _ => receptive.unchanged_addProfileForPath
  case registerRoutine => exact fun _ _ _ => unchanged_registerRoutine
  case install => exact fun _ _ _ _ => receptive.left_install
  case replaced =>
    intro key index routine error place refused
    rw [receptive.left_install refused]
    by_cases both : key = .unconfined ∧ index.toNat < engine.dispatch.length
    · rw [if_pos both, get?_withRoutine]
      simp [both]
    · rw [if_neg both, if_neg fun all => both ⟨all.1, all.2.1⟩]
  case installed =>
    intro key index routine
    by_cases inside : index.toNat < engine.dispatch.length
    · rw [install_inside inside]
      cases reserved : key.isUnconfined with
      | true =>
        rw [addProfile_reserved reserved]
        constructor
        · rintro ⟨profile, taken⟩
          cases taken
        · intro admits
          exact absurd (reserved.symm.trans admits.confined) Bool.noConfusion
      | false =>
        rw [(again index routine).addProfile_admitted ⟨reserved, inside⟩]
        exact ⟨fun _ => ⟨reserved, inside⟩, fun _ => ⟨_, rfl⟩⟩
    · rw [install_outside (Nat.not_lt.mp inside)]
      constructor
      · rintro ⟨profile, taken⟩
        cases taken
      · exact fun admits => absurd admits.inside inside

/-- An installation under the reserved key is refused, and yet a task under another profile with the
same place is now allowed what it was denied before. -/
theorem refusals_of_reserved_key :
    let engine := pair.after (confinedRun (.described .denyAll))
    let installed := (engine.install .unconfined 0 (.described .allowAll)).value
    installed.2 = .error (.policy .reservedKey) ∧
      (engine.exitOpen ⟨7, 7⟩).value.2 = .dispatched 0 (.denied .audit) ∧
      (installed.1.exitOpen ⟨7, 7⟩).value.2 = .dispatched 0 .allowed ∧ engine.Refusals :=
  ⟨by decide +kernel, by decide +kernel, by decide +kernel,
    refusals_of_reachable ⟨⟨2, 2, 1, .audit, .perThread, 1⟩, .recording, .direct,
      confinedRun (.described .denyAll), rfl, rfl⟩⟩

end Engine

end Confinement
