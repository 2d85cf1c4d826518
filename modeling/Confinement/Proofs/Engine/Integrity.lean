import Confinement.Proofs.Engine.Provenance
import Confinement.Proofs.Engine.Reports
import Confinement.Proofs.Table.Capacity

/-! What the tables and channels of an engine have in common at all times.

Records stand under their own numbers and keys, profiles point into the dispatch table, no task
carries a profile that was never loaded, and the channel for creations stays empty. An open call leans
on all of this: its event is filled from the record, and the taint is written back under its number.
-/

set_option autoImplicit false

namespace Confinement.Engine

/-- The records of the engine agree with where they stand, and their profiles were all published. -/
structure Consistent (published : ProfileKey → Prop) (engine : Engine) : Prop where
  numbered : ∀ tid record, engine.processes.find? tid = some record →
    record.pid = tid ∧ record.tid = tid
  inherited : ∀ tid record, engine.processes.find? tid = some record → record.isConfined = true →
    published record.profileKey
  keyed : ∀ key profile, engine.profiles.find? key = some profile →
    profile.key = key ∧ engine.Admits key profile.index
  loaded : ∀ key profile, engine.profiles.find? key = some profile → published key

variable {published : ProfileKey → Prop} {engine : Engine} {operation : Operation}

theorem Admits.next {key : ProfileKey} {index : UInt32} (admits : engine.Admits key index)
    (operation : Operation) : (engine.next operation).Admits key index :=
  ⟨admits.confined, by rw [length_dispatch_next]; exact admits.inside⟩

/-- A task that has a profile, even if it is asked for as a parent, has one that was published. -/
theorem Consistent.profileOf (consistent : engine.Consistent published) {tid : UInt32}
    (confined : (engine.tracker.profileOf tid).isUnconfined = false) :
    published (engine.tracker.profileOf tid) := by
  cases present : engine.processes.find? tid with
  | none =>
    rw [Tracker.profileOf_untracked present] at confined
    cases confined
  | some record =>
    rw [Tracker.profileOf_tracked present] at confined ⊢
    exact consistent.inherited tid record present (by simpa [ProcessState.isConfined] using confined)

theorem Consistent.next (consistent : engine.Consistent published)
    (restrained : engine.dispatch.Each Routine.IsRestrained) (sound : engine.Sound)
    (operation : Operation) :
    (engine.next operation).Consistent fun key => engine.Loads operation key ∨ published key where
  numbered tid later found := by
    cases descends_next restrained sound found with
    | born => exact ⟨rfl, rfl⟩
    | @moved _ record _ _ present => exact consistent.numbered tid record present
    | kept _ _ present same =>
      obtain ⟨pid, own⟩ := consistent.numbered tid _ present
      simp only [ProcessState.untainted, ProcessState.mk.injEq] at same
      exact ⟨same.1.trans pid, same.2.2.1.trans own⟩
  inherited tid later found confined := by
    apply Or.inr
    cases descends_next restrained sound found with
    | @born parent _ _ =>
      exact consistent.profileOf (by simpa [ProcessState.isConfined, Tracker.newborn] using confined)
    | moved _ known _ =>
      obtain ⟨profile, loaded⟩ := Option.isSome_iff_exists.mp known
      exact consistent.loaded _ profile loaded
    | kept _ _ present same =>
      simp only [ProcessState.untainted, ProcessState.mk.injEq] at same
      rw [ProcessState.isConfined, same.2.2.2.1] at confined
      rw [same.2.2.2.1]
      exact consistent.inherited tid _ present confined
  keyed key profile found := by
    rcases profile_origin sound found with ⟨_, same, admits⟩ | present
    · exact ⟨same, admits.next operation⟩
    · obtain ⟨same, admits⟩ := consistent.keyed key profile present
      exact ⟨same, admits.next operation⟩
  loaded key profile found := by
    rcases profile_origin sound found with ⟨answer, same, _⟩ | present
    · exact .inl ⟨profile, answer, same⟩
    · exact .inr (consistent.loaded key profile present)

/-! ## Runs -/

/-- The key was published: a profile of the key was loaded at some time of the run. -/
def Published (start : Engine) (operations : List Operation) (key : ProfileKey) : Prop :=
  ∃ moment ∈ moments operations, (start.after moment.past).Loads moment.operation key

variable {start : Engine}

theorem published_concat (start : Engine) (operations : List Operation) (operation : Operation) :
    start.Published (operations ++ [operation]) = fun key =>
      (start.after operations).Loads operation key ∨ start.Published operations key := by
  funext key
  simp [Published, moments_concat, or_comm, or_and_right, exists_or]

theorem consistent_initial (config : Config) (terminator : Terminator) (assignments : Assignments)
    (published : ProfileKey → Prop) :
    (initial config terminator assignments).Consistent published := by
  have untracked : ∀ tid, (initial config terminator assignments).processes.find? tid = none :=
    Table.find?_new _ _ _ _
  have unknown : ∀ key, (initial config terminator assignments).profiles.find? key = none :=
    Table.find?_new _ _ _ _
  constructor <;> simp [untracked, unknown]

theorem consistent_after (restrained : start.dispatch.Each Routine.IsRestrained)
    (sound : start.Sound) (consistent : start.Consistent (start.Published []))
    {operations : List Operation}
    (registers : ∀ operation ∈ operations, operation.Registers Routine.IsRestrained) :
    (start.after operations).Consistent (start.Published operations) := by
  induction operations using List.reverseRecOn with
  | nil => exact consistent
  | append_singleton earlier operation ih =>
    have before := (List.forall_mem_append.mp registers).1
    rw [after_concat, published_concat]
    exact (ih before).next (each_after restrained before) (sound.after earlier) operation

theorem consistent_of_build {config : Config} {terminator : Terminator} {assignments : Assignments}
    (built : (build config terminator assignments).value = .ok start) {operations : List Operation}
    (registers : ∀ operation ∈ operations, operation.Registers Routine.IsRestrained) :
    (start.after operations).Consistent (start.Published operations) := by
  refine consistent_after (each_of_build built _) (sound_of_build built) ?_ registers
  rw [eq_initial_of_build built]
  exact consistent_initial config terminator assignments _

theorem silent_next (silent : engine.bus.queue .processCreate = .empty) (operation : Operation) :
    (engine.next operation).bus.queue .processCreate = .empty := by
  have reporting := engine.reporting_next operation
  rw [bus]
  generalize (engine.next operation).reporter = later at reporting ⊢
  cases reporting with
  | heard =>
    have other := Reporter.channelOf_ne_processCreate engine.reporter.mode
    rw [Reporter.queue_enforcedAll other.symm]
    exact silent
  | switched => exact silent
  | @drained channel =>
    refine (engine.bus.queue_drain channel .processCreate).trans ?_
    by_cases same : Channel.processCreate = channel
    · rw [if_pos same, ← same, silent]
      rfl
    · rw [if_neg same, silent]

/-- What holds of the tables and channels of an engine after some operations. -/
structure Intact (config : Config) (start : Engine) (operations : List Operation) : Prop where
  numbered : ∀ tid record, (start.after operations).processes.find? tid = some record →
    record.pid = tid ∧ record.tid = tid
  keyed : ∀ key profile, (start.after operations).profiles.find? key = some profile →
    profile.key = key ∧ key ≠ .unconfined ∧ profile.index.toNat < config.maxProfiles
  places : (start.after operations).dispatch.length = config.maxProfiles
  published : ∀ tid record, (start.after operations).processes.find? tid = some record →
    record.profileKey ≠ .unconfined → start.Published operations record.profileKey
  tasks : (start.after operations).processes.size ≤ config.maxProcesses
  profiles : (start.after operations).profiles.size ≤ config.maxProfiles
  silent : (start.after operations).bus.pending .processCreate = [] ∧
    (start.after operations).bus.dropped .processCreate = 0

/-- In every state of a run with restrained routines, whatever was done and whether it failed or not, all
records stand under their own numbers and keys, and no table holds more than it may. -/
theorem intact_after {config : Config} {terminator : Terminator} {assignments : Assignments}
    (built : (build config terminator assignments).value = .ok start) {operations : List Operation}
    (registers : ∀ operation ∈ operations, operation.Registers Routine.IsRestrained) :
    start.Intact config operations := by
  have same := eq_initial_of_build built
  have sound := sound_of_build built
  have consistent := consistent_of_build built registers
  have places : (start.after operations).dispatch.length = config.maxProfiles := by
    refine holds_after (fun engine => engine.dispatch.length = config.maxProfiles) ?_ ?_
    · rw [same]
      rfl
    · intro later _ before
      rw [length_dispatch_next, before]
  have silent : (start.after operations).bus.queue .processCreate = .empty := by
    refine holds_after (fun engine => engine.bus.queue .processCreate = .empty) ?_ ?_
    · rw [same]
      exact Bus.queue_new _ _
    · exact fun later _ before => silent_next before later.operation
  constructor
  case numbered => exact consistent.numbered
  case keyed =>
    intro key profile found
    obtain ⟨own, admits⟩ := consistent.keyed key profile found
    refine ⟨own, ?_, places ▸ admits.inside⟩
    rw [Ne, ← ProfileKey.isUnconfined_iff, admits.confined]
    exact Bool.false_ne_true
  case places => exact places
  case published =>
    intro tid record found confined
    exact consistent.inherited tid record found (record.isConfined_iff.mpr confined)
  case tasks =>
    have follows := follows_processes_after sound operations
    rw [same] at follows ⊢
    exact follows.size_le
  case profiles =>
    have follows := follows_profiles_after sound operations
    rw [same] at follows ⊢
    exact follows.size_le
  case silent =>
    exact ⟨congrArg Queue.pending silent, congrArg Queue.dropped silent⟩

theorem intact_after_denial :
    (pair.after (confinedRun (.described .denyAll))).processes.find? 8 =
        some ⟨8, 8, 8, Executable.profileKey ⟨0, 5⟩, false⟩ ∧
      pair.Intact ⟨2, 2, 1, .audit, .perThread, 1⟩ (confinedRun (.described .denyAll)) :=
  ⟨by decide +kernel, intact_after build_pair
    (registers_confinedRun RoutineSpec.denyAll.keepsRecords.isRestrained)⟩

end Confinement.Engine
