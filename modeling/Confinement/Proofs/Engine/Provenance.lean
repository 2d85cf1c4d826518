import Confinement.Proofs.Engine.History

/-! Where the records that an operation leaves behind come from.

The record of a task was there before with the same numbers, or it belongs to a new task. Its profile
changes only where the task loads a program with a profile. A profile was there before, or it was
loaded just now and passed the checks of the loader.
-/

set_option autoImplicit false

namespace Confinement.Engine

variable {engine : Engine} {operation : Operation}

/-! ## Tasks -/

/-- Where the record of a task after an operation comes from. -/
inductive Descends (engine : Engine) (operation : Operation) (tid : UInt32) : ProcessState → Prop where
  | born {parent group : UInt32} (creates : operation = .event (.processCreate parent tid group)) :
      Descends engine operation tid (engine.tracker.newborn parent tid group)
  | moved {executable : Executable} {record : ProcessState}
      (loads : operation = .event (.programLoad tid executable))
      (known : (engine.profiles.find? executable.profileKey).isSome)
      (present : engine.processes.find? tid = some record) :
      Descends engine operation tid { record with profileKey := executable.profileKey }
  | kept {record later : ProcessState}
      (unborn : ∀ parent group, operation ≠ .event (.processCreate parent tid group))
      (unmoved : ∀ executable, operation = .event (.programLoad tid executable) →
        engine.profiles.find? executable.profileKey = none)
      (present : engine.processes.find? tid = some record)
      (same : later.untainted = record.untainted) : Descends engine operation tid later

theorem descends_next (restrained : engine.dispatch.Each Routine.IsRestrained) (sound : engine.Sound)
    {tid : UInt32} {later : ProcessState}
    (found : (engine.next operation).processes.find? tid = some later) :
    engine.Descends operation tid later := by
  cases quiet : operation.isLifecycle with
  | false =>
    have unborn : ∀ parent group, operation ≠ .event (.processCreate parent tid group) := by
      rintro parent group rfl
      cases quiet
    have unmoved : ∀ executable, operation = .event (.programLoad tid executable) →
        engine.profiles.find? executable.profileKey = none := by
      rintro executable rfl
      cases quiet
    rcases (spared_records restrained quiet).spared sound.tasks tid with ⟨_, gone⟩ | same
    · rw [gone] at found
      cases found
    · rw [found, Option.map_some] at same
      obtain ⟨record, present, equal⟩ := Option.map_eq_some_iff.mp same.symm
      exact .kept unborn unmoved present equal.symm
  | true =>
    cases operation with
    | event event =>
      cases event with
      | processCreate parent child group =>
        rcases (Tracker.updated_create sound.tasks parent child group).origin found with
          ⟨rfl, rfl, _⟩ | ⟨other, present⟩
        · exact .born rfl
        · have present : (engine.processes.lookup parent).1.find? tid = some later := present
          rw [sound.tasks.find?_lookup] at present
          refine .kept (fun _ _ same => ?_) (by rintro _ ⟨⟩) present rfl
          cases same
          exact other rfl
      | programLoad loader executable =>
        have loaded := find?_next_load sound loader executable tid
        rw [found] at loaded
        by_cases moves : tid = loader ∧ (engine.profiles.find? executable.profileKey).isSome
        · rw [if_pos moves] at loaded
          obtain ⟨record, present, rfl⟩ := Option.map_eq_some_iff.mp loaded.symm
          exact .moved (by rw [moves.1]) moves.2 present
        · rw [if_neg moves] at loaded
          refine .kept (by rintro _ _ ⟨⟩) (fun _ same => ?_) loaded.symm rfl
          cases same
          simpa using moves
      | processExit gone =>
        have deleted := find?_next_exit sound gone tid
        rw [found] at deleted
        by_cases same : tid = gone
        · rw [if_pos same] at deleted
          cases deleted
        · rw [if_neg same] at deleted
          exact .kept (by rintro _ _ ⟨⟩) (by rintro _ ⟨⟩) deleted.symm rfl
      | _ => cases quiet
    | _ => cases quiet

/-! ## Profiles -/

/-- A profile was there before an attempt to load one, or it is the one that was loaded. -/
theorem Added.origin {result : Engine × Except Error Profile} (added : engine.Added result)
    (bounded : engine.profiles.Bounded) {key : ProfileKey} {profile : Profile}
    (found : result.1.profiles.find? key = some profile) :
    (result.2 = .ok profile ∧ profile.key = key ∧ engine.Admits key profile.index) ∨
      engine.profiles.find? key = some profile := by
  cases added with
  | rejected => exact .inr found
  | @full other index failure error refused =>
    have updated := Table.updated_update bounded other ⟨other, index⟩
    rcases updated.origin found with ⟨_, _, _, taken⟩ | ⟨_, present⟩
    · rw [refused] at taken
      cases taken
    · exact .inr present
  | @taken other index previous admits taken =>
    have updated := Table.updated_update bounded other ⟨other, index⟩
    rcases updated.origin found with ⟨rfl, rfl, _⟩ | ⟨_, present⟩
    · exact .inl ⟨rfl, rfl, admits⟩
    · exact .inr present

/-- A profile was there before the operation, or the operation answers with it. -/
theorem profile_origin (sound : engine.Sound) {key : ProfileKey} {profile : Profile}
    (found : (engine.next operation).profiles.find? key = some profile) :
    ((engine.perform operation).value.2 = .profile profile ∧ profile.key = key ∧
        engine.Admits key profile.index) ∨
      engine.profiles.find? key = some profile := by
  cases quiet : operation.changesProfiles with
  | false =>
    have same := (retained_profiles sound.tasks quiet).found sound.profiles key
    rw [Option.map_id, id, id] at same
    exact .inr (same.symm.trans found)
  | true =>
    cases operation with
    | addProfile other index =>
      refine ((engine.added_addProfile other index).origin sound.profiles found).imp_left ?_
      rintro ⟨answer, same, admits⟩
      exact ⟨by simpa [perform] using answer, same, admits⟩
    | addProfileForPath files path index =>
      refine ((engine.added_addProfileForPath files path index).origin sound.profiles found).imp_left ?_
      rintro ⟨answer, same, admits⟩
      exact ⟨by simpa [perform] using answer, same, admits⟩
    | install other index routine =>
      refine ((engine.added_install other index routine).origin sound.profiles found).imp_left ?_
      rintro ⟨answer, same, admits⟩
      refine ⟨by simpa [perform] using answer, same, admits.confined, ?_⟩
      have inside := admits.inside
      rwa [withDispatch, DispatchTable.length_register] at inside
    | removeProfile other =>
      have deleted := sound.profiles.find?_delete other key
      have found : (engine.profiles.delete other).1.find? key = some profile := found
      rw [found] at deleted
      by_cases same : key = other
      · rw [if_pos same] at deleted
        cases deleted
      · rw [if_neg same] at deleted
        exact .inr deleted.symm
    | _ => cases quiet

end Confinement.Engine
