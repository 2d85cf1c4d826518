import Confinement.Lifecycle
import Confinement.Proofs.Table.Refinement

/-! What the creation of a task, the load of a program and an exit do to the two tables. -/

set_option autoImplicit false

namespace Confinement

@[simp] theorem Table.value_put {κ α : Type} [DecidableEq κ] (table : Table κ α) (key : κ)
    (value : α) : (table.put key value).value = table.update key value := rfl

theorem ProfileKey.isUnconfined_iff (key : ProfileKey) :
    key.isUnconfined = true ↔ key = .unconfined := by
  rw [isUnconfined, beq_iff_eq, unconfined, ProfileKey.mk.injEq]

theorem ProcessState.isConfined_iff (process : ProcessState) :
    process.isConfined = true ↔ process.profileKey ≠ .unconfined := by
  rw [isConfined, Bool.not_eq_true', ← Bool.not_eq_true, ProfileKey.isUnconfined_iff]

namespace Tracker

variable {tracker : Tracker}

def profileOf (tracker : Tracker) (tid : UInt32) : ProfileKey :=
  ((tracker.processes.find? tid).map ProcessState.profileKey).getD .unconfined

theorem profileOf_tracked {tid : UInt32} {record : ProcessState}
    (present : tracker.processes.find? tid = some record) :
    tracker.profileOf tid = record.profileKey := by
  simp [profileOf, present]

theorem profileOf_untracked {tid : UInt32} (absent : tracker.processes.find? tid = none) :
    tracker.profileOf tid = .unconfined := by
  simp [profileOf, absent]

/-! ## Creation -/

def newborn (tracker : Tracker) (parent child tgid : UInt32) : ProcessState :=
  { ProcessState.new child tgid with profileKey := tracker.profileOf parent }

theorem value_create (tracker : Tracker) (parent child tgid : UInt32) :
    (tracker.create parent child tgid).value =
      let (processes, answer) := (tracker.processes.lookup parent).1.update child
        (tracker.newborn parent child tgid)
      ({ tracker with processes }, match answer with
        | .ok _ => .ok (tracker.newborn parent child tgid)
        | .error failure => .error (.capacity processes.name failure.capacity)) := by
  rw [newborn, profileOf, ← tracker.processes.answer_lookup parent, create]
  rw [Logged.value_bind, Table.value_put]
  dsimp only
  generalize (tracker.processes.lookup parent).1.update child _ = updated
  obtain ⟨processes, answer⟩ := updated
  cases answer with
  | error failure => rfl
  | ok stale => cases stale <;> rfl

theorem create_taken {tracker : Tracker} {parent child tgid : UInt32} {previous : Option ProcessState}
    (taken : ((tracker.processes.lookup parent).1.update child
      (tracker.newborn parent child tgid)).2 = .ok previous) :
    (tracker.create parent child tgid).value.2 = .ok (tracker.newborn parent child tgid) := by
  rw [value_create]
  dsimp only
  rw [taken]

theorem processes_create (tracker : Tracker) (parent child tgid : UInt32) :
    (tracker.create parent child tgid).value.1.processes =
      ((tracker.processes.lookup parent).1.update child (tracker.newborn parent child tgid)).1 := by
  rw [value_create]

@[simp] theorem profiles_create (tracker : Tracker) (parent child tgid : UInt32) :
    (tracker.create parent child tgid).value.1.profiles = tracker.profiles := by
  rw [value_create]

theorem follows_create (tracker : Tracker) (parent child tgid : UInt32) :
    tracker.processes.Follows (tracker.create parent child tgid).value.1.processes := by
  rw [processes_create]
  exact (tracker.processes.follows_lookup parent).trans (Table.follows_update _ child _)

theorem updated_create (bounded : tracker.processes.Bounded) (parent child tgid : UInt32) :
    Table.Updated (tracker.processes.lookup parent).1 child (tracker.newborn parent child tgid)
      (tracker.create parent child tgid).value.1.processes
      ((tracker.processes.lookup parent).1.update child (tracker.newborn parent child tgid)).2 := by
  rw [processes_create]
  exact Table.updated_update ((tracker.processes.follows_lookup parent).bounded bounded) child _

/-- A task whose creation succeeds is tracked, under the profile of its parent. -/
theorem find?_created (bounded : tracker.processes.Bounded) {parent child tgid : UInt32}
    {process : ProcessState}
    (created : (tracker.create parent child tgid).value.2 = .ok process) :
    (tracker.create parent child tgid).value.1.processes.find? child = some process ∧
      process = tracker.newborn parent child tgid := by
  have updated := updated_create bounded parent child tgid
  rw [value_create] at created
  dsimp only at created
  generalize ((tracker.processes.lookup parent).1.update child _).2 = answer at updated created
  cases answer with
  | error failure => cases created
  | ok previous =>
    cases created
    exact ⟨updated.stored, rfl⟩

theorem create_refused (bounded : tracker.processes.Bounded) {parent child tgid : UInt32}
    {failure : Exhausted} (refused : ((tracker.processes.lookup parent).1.update child
      (tracker.newborn parent child tgid)).2 = .error failure) :
    let result := (tracker.create parent child tgid).value
    result.2 = .error (.capacity tracker.processes.name failure.capacity) ∧
      (∀ tid, result.1.processes.find? tid = tracker.processes.find? tid) ∧
      result.1.processes.evicted = tracker.processes.evicted := by
  have updated := updated_create bounded parent child tgid
  rw [refused] at updated
  refine ⟨?_, ?_⟩
  · rw [value_create]
    dsimp only
    rw [refused, Table.name_update, (tracker.processes.follows_lookup parent).name]
  · cases updated with
    | refused _ _ found evicted =>
      have looked := (tracker.processes.spared_lookup id (fun _ => False) parent).evicted
      exact ⟨fun tid => (found tid).trans (bounded.find?_lookup parent tid), evicted.trans looked⟩

theorem absent_create (bounded : tracker.processes.Bounded) {parent child tgid tid : UInt32}
    (other : tid ≠ child) (absent : tracker.processes.find? tid = none) :
    (tracker.create parent child tgid).value.1.processes.find? tid = none := by
  have updated := updated_create bounded parent child tgid
  rw [← bounded.find?_lookup parent] at absent
  generalize ((tracker.processes.lookup parent).1.update child _).2 = answer at updated
  cases updated with
  | replaced _ found _ => rw [found, if_neg other, absent]
  | inserted _ found _ => rw [found, if_neg other, absent]
  | evicting _ _ _ others _ => exact (others tid other).elim id fun same => same.trans absent
  | refused _ _ found _ => rw [found, absent]

/-- If nothing gives way to it, a creation leaves the records of all other tasks, and that of the new
one if it is refused. -/
theorem kept_create (bounded : tracker.processes.Bounded) {parent child tgid : UInt32}
    (kept : (tracker.create parent child tgid).value.1.processes.evicted =
      tracker.processes.evicted) (tid : UInt32) :
    tid = child ∧ (tracker.create parent child tgid).value.1.processes.find? tid =
        some (tracker.newborn parent child tgid) ∨
      (tracker.create parent child tgid).value.1.processes.find? tid =
        tracker.processes.find? tid := by
  have updated := updated_create bounded parent child tgid
  rw [← bounded.find?_lookup parent]
  have looked := (tracker.processes.spared_lookup id (fun _ => False) parent).evicted
  generalize ((tracker.processes.lookup parent).1.update child _).2 = answer at updated
  cases updated with
  | replaced _ found _ =>
    rw [found]
    by_cases same : tid = child <;> simp [same]
  | inserted _ found _ =>
    rw [found]
    by_cases same : tid = child <;> simp [same]
  | evicting _ _ _ _ evicted => omega
  | refused _ _ found _ => exact .inr (found tid)

theorem find?_create (ordered : tracker.processes.Ordered) (roomy : tracker.processes.Roomy)
    {parent child tgid : UInt32}
    (fresh : (tracker.create parent child tgid).value.1.processes.Unwrapped)
    (kept : (tracker.create parent child tgid).value.1.processes.evicted =
      tracker.processes.evicted) (tid : UInt32) :
    (tracker.create parent child tgid).value.1.processes.find? tid =
      if tid = child then some (tracker.newborn parent child tgid)
      else tracker.processes.find? tid := by
  have looked := tracker.processes.spared_lookup id (fun _ => False) parent
  rw [processes_create] at fresh kept ⊢
  have middle := (Table.follows_update _ child (tracker.newborn parent child tgid)).unwrapped fresh
  have room := (looked.follows.roomy roomy).shardOf child
  rw [← looked.evicted] at kept
  rw [(looked.follows.ordered middle ordered).find?_update room _ fresh kept,
    ordered.find?_lookup]

/-! ## The load of a program -/

theorem load_untracked {tid : UInt32} (absent : tracker.processes.find? tid = none)
    (executable : Executable) :
    (tracker.load tid executable).value =
      ({ tracker with processes := (tracker.processes.lookup tid).1 }, .untracked) := by
  rw [← Table.answer_lookup] at absent
  simp only [load, absent]
  rfl

theorem load_unknown {tid : UInt32} {record : ProcessState} {executable : Executable}
    (present : tracker.processes.find? tid = some record)
    (unknown : tracker.profiles.find? executable.profileKey = none) :
    (tracker.load tid executable).value =
      ({ processes := (tracker.processes.lookup tid).1
         profiles := (tracker.profiles.lookup executable.profileKey).1 },
        .unchanged record.profileKey) := by
  rw [← Table.answer_lookup] at present unknown
  simp only [load, present, unknown]
  rfl

theorem load_known (bounded : tracker.processes.Bounded) {tid : UInt32} {record : ProcessState}
    {profile : Profile} {executable : Executable}
    (present : tracker.processes.find? tid = some record)
    (known : tracker.profiles.find? executable.profileKey = some profile) :
    (tracker.load tid executable).value =
      ({ processes := ((tracker.processes.lookup tid).1.modify tid fun record =>
           { record with profileKey := executable.profileKey }).1
         profiles := (tracker.profiles.lookup executable.profileKey).1 },
        .confined executable.profileKey) := by
  have again : ((tracker.processes.lookup tid).1.modify tid fun record =>
      { record with profileKey := executable.profileKey }).2 = some record := by
    rw [Table.answer_modify, bounded.find?_lookup, present]
  rw [← Table.answer_lookup] at present known
  simp only [load, present, known, Logged.value_bind, again]
  rfl

theorem retained_load (bounded : tracker.processes.Bounded) (tid : UInt32)
    (executable : Executable) :
    Table.Retained ProcessState.pid tracker.processes
      (tracker.load tid executable).value.1.processes := by
  have looked := tracker.processes.spared_lookup ProcessState.pid (fun _ => False) tid
  cases present : tracker.processes.find? tid with
  | none =>
    rw [load_untracked present]
    exact looked
  | some record =>
    cases known : tracker.profiles.find? executable.profileKey with
    | none =>
      rw [load_unknown present known]
      exact looked
    | some profile =>
      rw [load_known bounded present known]
      exact looked.trans (Table.spared_modify _ _ tid fun _ => rfl)

theorem retained_profiles_load (bounded : tracker.processes.Bounded) (tid : UInt32)
    (executable : Executable) :
    Table.Retained id tracker.profiles (tracker.load tid executable).value.1.profiles := by
  have looked := tracker.profiles.spared_lookup id (fun _ => False) executable.profileKey
  cases present : tracker.processes.find? tid with
  | none =>
    rw [load_untracked present]
    exact .refl _
  | some record =>
    cases known : tracker.profiles.find? executable.profileKey with
    | none =>
      rw [load_unknown present known]
      exact looked
    | some profile =>
      rw [load_known bounded present known]
      exact looked

theorem find?_load (bounded : tracker.processes.Bounded) (tid : UInt32) (executable : Executable)
    (other : UInt32) :
    (tracker.load tid executable).value.1.processes.find? other =
      if other = tid ∧ (tracker.profiles.find? executable.profileKey).isSome then
        (tracker.processes.find? other).map fun record =>
          { record with profileKey := executable.profileKey }
      else tracker.processes.find? other := by
  have looked := bounded.find?_lookup tid
  cases present : tracker.processes.find? tid with
  | none =>
    rw [load_untracked present, looked]
    by_cases same : other = tid <;> simp [same, present]
  | some record =>
    cases known : tracker.profiles.find? executable.profileKey with
    | none =>
      rw [load_unknown present known, looked]
      simp
    | some profile =>
      have still := (tracker.processes.follows_lookup tid).bounded bounded
      rw [load_known bounded present known]
      simp [still.find?_modify, looked]

end Tracker

end Confinement
