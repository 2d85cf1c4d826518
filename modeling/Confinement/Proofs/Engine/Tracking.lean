import Confinement.Proofs.Engine.History

/-! The records of tasks as the history of the run tells them.

As long as no record gives way to another, a task is tracked exactly from its creation to its exit,
and its profile is the one that the last known program since its creation has, or else the one that
its parent ran under when it was created. The parent's profile is told by the same history.
-/

set_option autoImplicit false

namespace Confinement

def Moment.BeginsOrEnds (tid : UInt32) (moment : Moment) : Prop :=
  moment.Creates tid ∨ moment.operation = .event (.processExit tid)

namespace Engine

/-! ## What the history tells -/

def LoadsOrRemoves (start : Engine) (key : ProfileKey) (moment : Moment) : Prop :=
  (start.after moment.past).Loads moment.operation key ∨ moment.operation = .removeProfile key

/-- The profile of the key was loaded at some time, and not removed since. -/
def HasLoaded (start : Engine) (past : List Operation) (key : ProfileKey) : Prop :=
  ∃ moment since, Last (start.LoadsOrRemoves key) (moments past) moment since ∧
    (start.after moment.past).Loads moment.operation key

def Confines (start : Engine) (tid : UInt32) (moment : Moment) : Prop :=
  ∃ executable, moment.operation = .event (.programLoad tid executable) ∧
    start.HasLoaded moment.past executable.profileKey

/-- The profile that a task comes to from the one that it inherited: that of the last program with a
profile, if it loaded any. -/
def ComesTo (start : Engine) (tid : UInt32) (inherited : ProfileKey) (since : List Moment)
    (key : ProfileKey) : Prop :=
  (∃ past executable rest,
      Last (start.Confines tid) since ⟨past, .event (.programLoad tid executable)⟩ rest ∧
        key = executable.profileKey) ∨
    (∀ moment ∈ since, ¬ start.Confines tid moment) ∧ key = inherited

variable {start : Engine}

theorem hasLoaded_concat (past : List Operation) (operation : Operation) (key : ProfileKey) :
    start.HasLoaded (past ++ [operation]) key ↔
      (start.after past).Loads operation key ∨
        start.HasLoaded past key ∧ operation ≠ .removeProfile key := by
  unfold HasLoaded
  rw [moments_concat]
  by_cases newest : start.LoadsOrRemoves key ⟨past, operation⟩
  · simp only [Last.concat_here newest]
    constructor
    · rintro ⟨_, _, ⟨rfl, rfl⟩, loads⟩
      exact .inl loads
    · rintro (loads | ⟨_, kept⟩)
      · exact ⟨_, _, ⟨rfl, rfl⟩, loads⟩
      · exact ⟨_, _, ⟨rfl, rfl⟩, newest.resolve_right kept⟩
  · simp only [Last.concat_quiet newest]
    constructor
    · rintro ⟨moment, _, ⟨rest, rfl, last⟩, loads⟩
      exact .inr ⟨⟨moment, rest, last, loads⟩, fun removed => newest (.inr removed)⟩
    · rintro (loads | ⟨⟨moment, rest, last, loads⟩, _⟩)
      · exact absurd (.inl loads) newest
      · exact ⟨moment, _, ⟨rest, rfl, last⟩, loads⟩

theorem ComesTo.concat_confined {tid : UInt32} {inherited : ProfileKey} {since : List Moment}
    {past : List Operation} {executable : Executable}
    (loaded : start.HasLoaded past executable.profileKey) :
    start.ComesTo tid inherited (since ++ [⟨past, .event (.programLoad tid executable)⟩])
      executable.profileKey := by
  refine .inl ⟨past, executable, [], ?_, rfl⟩
  rw [Last.concat_here ⟨executable, rfl, loaded⟩]
  exact ⟨rfl, rfl⟩

theorem ComesTo.concat_quiet {tid : UInt32} {inherited key : ProfileKey} {since : List Moment}
    {newest : Moment} (comes : start.ComesTo tid inherited since key)
    (quiet : ¬ start.Confines tid newest) :
    start.ComesTo tid inherited (since ++ [newest]) key := by
  rcases comes with ⟨past, executable, rest, last, same⟩ | ⟨none, same⟩
  · refine .inl ⟨past, executable, rest ++ [newest], ?_, same⟩
    rw [Last.concat_quiet quiet]
    exact ⟨rest, rfl, last⟩
  · refine .inr ⟨fun moment member => ?_, same⟩
    rcases List.mem_append.mp member with earlier | last
    · exact none moment earlier
    · rw [List.mem_singleton.mp last]
      exact quiet

/-! ## Runs without loss -/

/-- A run in which no routine changes more of a record than its taint, no record gives way to another, and
no counter of uses of the process table starts over. -/
structure Lossless (start : Engine) (operations : List Operation) : Prop where
  keep : ∀ operation ∈ operations, operation.Registers Routine.KeepsRecords
  tasks : (start.after operations).processes.evicted = 0
  profiles : (start.after operations).profiles.evicted = 0
  fresh : (start.after operations).processes.Unwrapped

structure Ready (engine : Engine) : Prop where
  sound : engine.Sound
  ordered : engine.processes.Ordered
  roomy : engine.processes.Roomy
  keep : engine.dispatch.Each Routine.KeepsRecords

structure Blank (start : Engine) : Prop extends Ready start where
  untracked : ∀ tid, start.processes.find? tid = none
  unknown : ∀ key, start.profiles.find? key = none

theorem blank_initial {config : Config} (room : 1 ≤ config.maxProcesses) (terminator : Terminator)
    (assignments : Assignments) : (initial config terminator assignments).Blank where
  sound := sound_initial config terminator assignments
  ordered := Table.each_new _ _ _ _ Shard.ordered_empty
  roomy := Table.roomy_new _ room _ _
  keep index routine registered := by cases registered
  untracked := Table.find?_new _ _ _ _
  unknown := Table.find?_new _ _ _ _

theorem Lossless.before {operations : List Operation} {operation : Operation}
    (sound : start.Sound) (lossless : start.Lossless (operations ++ [operation])) :
    start.Lossless operations := by
  obtain ⟨keep, tasks, profiles, fresh⟩ := lossless
  have sound := sound.after operations
  rw [after_concat] at tasks profiles fresh
  have follows := follows_processes sound.tasks operation
  have loaded := (follows_profiles sound.tasks operation).evicted
  have lost := follows.evicted
  refine ⟨fun earlier member => keep earlier (List.mem_append_left _ member), ?_, ?_, ?_⟩
  · exact Nat.le_zero.mp (tasks ▸ lost)
  · exact Nat.le_zero.mp (profiles ▸ loaded)
  · exact follows.unwrapped fresh

theorem Ready.after {operations : List Operation} (ready : start.Ready)
    (lossless : start.Lossless operations) : (start.after operations).Ready := by
  induction operations using List.reverseRecOn with
  | nil => exact ready
  | append_singleton earlier operation ih =>
    obtain ⟨sound, ordered, roomy, keep⟩ := ih (lossless.before ready.sound)
    have follows := follows_processes sound.tasks operation
    have keeps := lossless.keep operation (by simp)
    have fresh := lossless.fresh
    rw [after_concat] at fresh ⊢
    exact ⟨sound.next operation, follows.ordered fresh ordered, follows.roomy roomy,
      each_next keep keeps⟩

theorem isSome_profile_iff_hasLoaded {operations : List Operation} (blank : start.Blank)
    (lossless : start.Lossless operations) (key : ProfileKey) :
    ((start.after operations).profiles.find? key).isSome ↔ start.HasLoaded operations key := by
  induction operations using List.reverseRecOn with
  | nil =>
    rw [after_nil, blank.unknown key]
    simp only [Option.isSome_none, Bool.false_eq_true, false_iff]
    rintro ⟨moment, since, last, _⟩
    exact Last.not_nil last
  | append_singleton earlier operation ih =>
    have before := lossless.before blank.sound
    have sound := blank.sound.after earlier
    have kept : ((start.after earlier).next operation).profiles.evicted =
        (start.after earlier).profiles.evicted := by
      rw [before.profiles, ← lossless.profiles, after_concat]
    rw [after_concat, hasLoaded_concat, ← ih before]
    exact isSome_profile_iff sound.tasks sound.profiles kept key

/-! ## One operation -/

variable {engine : Engine} {operation : Operation} {tid : UInt32}

theorem find?_next_create (ready : engine.Ready) {parent child group : UInt32}
    (fresh : (engine.next (.event (.processCreate parent child group))).processes.Unwrapped)
    (kept : (engine.next (.event (.processCreate parent child group))).processes.evicted =
      engine.processes.evicted) :
    (engine.next (.event (.processCreate parent child group))).processes.find? tid =
      if tid = child then some (engine.tracker.newborn parent child group)
      else engine.processes.find? tid :=
  Tracker.find?_create ready.ordered ready.roomy fresh kept tid

/-- What is neither the creation nor the exit of a task nor a program with a profile leaves its
record as it is, but for the taint. -/
theorem untainted_next (ready : engine.Ready)
    (fresh : (engine.next operation).processes.Unwrapped)
    (kept : (engine.next operation).processes.evicted = engine.processes.evicted)
    (begins : ∀ parent group, operation ≠ .event (.processCreate parent tid group))
    (ends : operation ≠ .event (.processExit tid))
    (confines : ∀ executable, operation = .event (.programLoad tid executable) →
      engine.profiles.find? executable.profileKey = none) :
    ((engine.next operation).processes.find? tid).map ProcessState.untainted =
      (engine.processes.find? tid).map ProcessState.untainted := by
  cases quiet : operation.isLifecycle with
  | false => exact (retained_processes ready.keep quiet).found ready.sound.tasks tid
  | true =>
    cases operation with
    | event event =>
      cases event with
      | processCreate parent child group =>
        have other : tid ≠ child := by
          rintro rfl
          exact begins parent group rfl
        rw [find?_next_create ready fresh kept, if_neg other]
      | programLoad loader executable =>
        rw [find?_next_load ready.sound, if_neg]
        rintro ⟨rfl, known⟩
        rw [confines executable rfl] at known
        cases known
      | processExit gone =>
        have other : tid ≠ gone := by
          rintro rfl
          exact ends rfl
        rw [find?_next_exit ready.sound, if_neg other]
      | _ => cases quiet
    | _ => cases quiet

/-! ## Runs -/

/-- The record of a task is the one that the history tells: it is there exactly if the last creation
or exit of the task was a creation, and it carries the numbers of that creation and the profile that
the task has come to since. -/
structure TrackedByHistory (start : Engine) (operations : List Operation) (tid : UInt32) :
    Prop where
  tracked : (start.after operations).processes.contains tid = true ↔
    ∃ past parent group since, Last (Moment.BeginsOrEnds tid) (moments operations)
      ⟨past, .event (.processCreate parent tid group)⟩ since
  record : ∀ past parent group since,
    Last (Moment.BeginsOrEnds tid) (moments operations)
      ⟨past, .event (.processCreate parent tid group)⟩ since →
    ∃ record, (start.after operations).processes.find? tid = some record ∧
      record.pid = tid ∧ record.tid = tid ∧ record.tgid = group ∧
      start.ComesTo tid ((start.after past).tracker.profileOf parent) since record.profileKey

namespace TrackedByHistory

variable {operations : List Operation}

theorem nil (blank : start.Blank) (tid : UInt32) : start.TrackedByHistory [] tid where
  tracked := by
    have absent := blank.untracked tid
    simp [Table.contains, absent, Last.not_nil]
  record past parent group since last := absurd last Last.not_nil

theorem concat_create {parent group : UInt32}
    (found : (start.after (operations ++ [.event (.processCreate parent tid group)])).processes.find?
      tid = some ((start.after operations).tracker.newborn parent tid group)) :
    start.TrackedByHistory (operations ++ [.event (.processCreate parent tid group)]) tid := by
  have newest : Moment.BeginsOrEnds tid ⟨operations, .event (.processCreate parent tid group)⟩ :=
    .inl ⟨parent, group, rfl⟩
  constructor
  · simp only [moments_concat, Last.concat_here newest, Table.contains, found, Option.isSome_some,
      true_iff]
    exact ⟨operations, parent, group, [], rfl, rfl⟩
  · intro past otherParent otherGroup since last
    rw [moments_concat, Last.concat_here newest] at last
    obtain ⟨rfl, same⟩ := last
    cases same
    exact ⟨_, found, rfl, rfl, rfl, .inr ⟨by simp, rfl⟩⟩

theorem concat_exit
    (found : (start.after (operations ++ [.event (.processExit tid)])).processes.find? tid = none) :
    start.TrackedByHistory (operations ++ [.event (.processExit tid)]) tid := by
  have newest : Moment.BeginsOrEnds tid ⟨operations, .event (.processExit tid)⟩ := .inr rfl
  have noCreation : ∀ past parent group since,
      ¬ Last (Moment.BeginsOrEnds tid) (moments (operations ++ [.event (.processExit tid)]))
        ⟨past, .event (.processCreate parent tid group)⟩ since := by
    intro past parent group since last
    rw [moments_concat, Last.concat_here newest] at last
    cases last.2
  constructor
  · simp [Table.contains, found, noCreation]
  · intro past parent group since last
    exact absurd last (noCreation past parent group since)

/-- Another operation carries the record on, and the profile with the history. -/
theorem concat_other (history : start.TrackedByHistory operations tid)
    (quiet : ¬ Moment.BeginsOrEnds tid ⟨operations, operation⟩)
    (tracked : (start.after (operations ++ [operation])).processes.contains tid =
      (start.after operations).processes.contains tid)
    (carried : ∀ record, (start.after operations).processes.find? tid = some record →
      ∃ later, (start.after (operations ++ [operation])).processes.find? tid = some later ∧
        later.pid = record.pid ∧ later.tid = record.tid ∧ later.tgid = record.tgid ∧
        ∀ inherited since, start.ComesTo tid inherited since record.profileKey →
          start.ComesTo tid inherited (since ++ [⟨operations, operation⟩]) later.profileKey) :
    start.TrackedByHistory (operations ++ [operation]) tid := by
  constructor
  · rw [tracked, history.tracked]
    simp only [moments_concat, Last.concat_quiet quiet]
    constructor
    · rintro ⟨past, parent, group, rest, last⟩
      exact ⟨past, parent, group, _, rest, rfl, last⟩
    · rintro ⟨past, parent, group, _, rest, _, last⟩
      exact ⟨past, parent, group, rest, last⟩
  · intro past parent group since last
    rw [moments_concat, Last.concat_quiet quiet] at last
    obtain ⟨rest, rfl, last⟩ := last
    obtain ⟨record, found, pid, own, tgid, comes⟩ := history.record past parent group rest last
    obtain ⟨later, foundLater, samePid, sameTid, sameTgid, onward⟩ := carried record found
    exact ⟨later, foundLater, samePid.trans pid, sameTid.trans own, sameTgid.trans tgid,
      onward _ rest comes⟩

theorem concat (blank : start.Blank) (lossless : start.Lossless (operations ++ [operation]))
    (history : start.TrackedByHistory operations tid) :
    start.TrackedByHistory (operations ++ [operation]) tid := by
  have before := lossless.before blank.sound
  have ready := blank.toReady.after before
  have known := isSome_profile_iff_hasLoaded blank before
  have fresh := lossless.fresh
  have kept : ((start.after operations).next operation).processes.evicted =
      (start.after operations).processes.evicted := by
    rw [before.tasks, ← lossless.tasks, after_concat]
  rw [after_concat] at fresh
  by_cases begins : ∃ parent group, operation = .event (.processCreate parent tid group)
  · obtain ⟨parent, group, rfl⟩ := begins
    apply concat_create
    rw [after_concat, find?_next_create ready fresh kept, if_pos rfl]
  by_cases ends : operation = .event (.processExit tid)
  · subst ends
    apply concat_exit
    rw [after_concat, find?_next_exit ready.sound, if_pos rfl]
  have quiet : ¬ Moment.BeginsOrEnds tid ⟨operations, operation⟩ := not_or.mpr ⟨begins, ends⟩
  by_cases confines : start.Confines tid ⟨operations, operation⟩
  · obtain ⟨executable, rfl, loaded⟩ := confines
    have found := find?_next_load ready.sound tid executable tid
    rw [if_pos ⟨rfl, (known _).mpr loaded⟩, ← after_concat] at found
    refine history.concat_other quiet ?_ fun record present => ?_
    · simp [Table.contains, found]
    · rw [present] at found
      exact ⟨_, found, rfl, rfl, rfl, fun inherited since _ => .concat_confined loaded⟩
  · -- A program without a profile counts for nothing, like whatever else happens.
    have same := untainted_next ready fresh kept
      (fun parent group create => begins ⟨parent, group, create⟩) ends
      fun executable load => by
        have unknown := fun loaded => confines ⟨executable, load, (known _).mp loaded⟩
        simpa using unknown
    rw [← after_concat] at same
    refine history.concat_other quiet ?_ fun record present => ?_
    · simpa [Table.contains] using congrArg Option.isSome same
    · rw [present, Option.map_some] at same
      obtain ⟨later, found, equal⟩ := Option.map_eq_some_iff.mp same
      simp only [ProcessState.untainted, ProcessState.mk.injEq] at equal
      obtain ⟨pid, tgid, own, key, _⟩ := equal
      refine ⟨later, found, pid, own, tgid, fun inherited since comes => ?_⟩
      rw [key]
      exact comes.concat_quiet confines

theorem after (blank : start.Blank) {operations : List Operation}
    (lossless : start.Lossless operations) (tid : UInt32) :
    start.TrackedByHistory operations tid := by
  induction operations using List.reverseRecOn with
  | nil => exact .nil blank tid
  | append_singleton earlier operation ih =>
    exact concat blank lossless (ih (lossless.before blank.sound))

end TrackedByHistory

/-- In an engine with room for a task, the records of tasks are those that the history tells, as long
as no routine changes more of a record than its taint and nothing gives way to another record. -/
theorem tracked_by_history {config : Config} {terminator : Terminator} {assignments : Assignments}
    (built : (build config terminator assignments).value = .ok start)
    (room : 1 ≤ config.maxProcesses) {operations : List Operation}
    (lossless : start.Lossless operations) (tid : UInt32) :
    start.TrackedByHistory operations tid := by
  rw [eq_initial_of_build built] at lossless ⊢
  exact .after (blank_initial room terminator assignments) lossless tid

theorem tracked_by_history_child :
    (pair.after (confinedRun (.described .denyAll))).processes.contains 8 = true ∧
      pair.TrackedByHistory (confinedRun (.described .denyAll)) 8 := by
  refine ⟨by decide +kernel, tracked_by_history build_pair (by decide) ?_ 8⟩
  exact ⟨registers_confinedRun RoutineSpec.denyAll.keepsRecords, by decide +kernel, by decide +kernel,
    by decide +kernel⟩

/-- A routine that forgets its caller leaves a task untracked that was created and did not exit. -/
theorem not_tracked_by_history_of_forget :
    ¬ ∀ (config : Config) (terminator : Terminator) (assignments : Assignments) (start : Engine)
      (operations : List Operation) (tid : UInt32),
      (build config terminator assignments).value = .ok start → 1 ≤ config.maxProcesses →
      (start.after operations).processes.evicted = 0 →
      (start.after operations).profiles.evicted = 0 →
      (start.after operations).processes.Unwrapped →
      (start.after operations).profiles.Unwrapped →
      start.TrackedByHistory operations tid := by
  intro claim
  have history := claim _ _ _ pair (confinedRun (.script "forgetful" [.forget])) 7 build_pair
    (by decide) (by decide +kernel) (by decide +kernel) (by decide +kernel) (by decide +kernel)
  have untracked : (pair.after (confinedRun (.script "forgetful" [.forget]))).processes.contains 7 =
      false := by decide +kernel
  have creation : Last (Moment.BeginsOrEnds 7)
      (moments (confinedRun (.script "forgetful" [.forget]))) ⟨_, .event (.processCreate 0 7 7)⟩ _ :=
    ⟨⟨[_], rfl⟩, .inl ⟨0, 7, rfl⟩, by simp [Moment.following, Moment.BeginsOrEnds, Moment.Creates]⟩
  have tracked := history.tracked.mpr ⟨_, 0, 7, _, creation⟩
  rw [untracked] at tracked
  cases tracked

end Engine

end Confinement
