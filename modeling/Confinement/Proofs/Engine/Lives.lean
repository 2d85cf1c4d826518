import Confinement.Proofs.Engine.Captures

/-! Captured arguments and the lives of tasks.

The slot knows nothing of creations and exits. An exit leaves the capture of the task where it is, so
the next task of that number finds it, and in a full slot it takes the place of a capture of a living
task. Where no task is created or exits while its capture waits, neither can happen.
-/

set_option autoImplicit false

namespace Confinement

def Moment.Hooks (tid : UInt32) (moment : Moment) : Prop :=
  (∃ flags, moment.Enters tid flags) ∨ moment.Leaves tid

/-- The last end of an open call in the present life of the task is an entry with these arguments. -/
def PassedInLife (tid : UInt32) (flags : OpenFlags) (operations : List Operation) : Prop :=
  ∃ creation life entry since, Last (Moment.Creates tid) (moments operations) creation life ∧
    Last (Moment.Hooks tid) life entry since ∧ entry.Enters tid flags

namespace Engine

/-- A capture from before a creation of the task still waits. -/
def Leaks (start : Engine) (tid : UInt32) (operations : List Operation) : Prop :=
  ∃ flags entry since, Last (start.CapturesOrLeaves tid) (moments operations) entry since ∧
    start.Captures tid flags entry ∧ (∃ moment ∈ since, moment.Creates tid) ∧
    ∀ moment ∈ since, ¬ start.PushesOut tid moment

/-- The arguments of the last entry in the present life of the task were not captured, or pushed out
since. -/
def Misses (start : Engine) (tid : UInt32) (operations : List Operation) : Prop :=
  ∃ creation life entry since flags, Last (Moment.Creates tid) (moments operations) creation life ∧
    Last (Moment.Hooks tid) life entry since ∧ entry.Enters tid flags ∧
    (start.answer entry = .outcome (.captured false) ∨ ∃ moment ∈ since, start.PushesOut tid moment)

def Restrained (start : Engine) (operations : List Operation) : Prop :=
  ∀ moment ∈ moments operations, (start.after moment.past).dispatch.Each Routine.IsRestrained

structure Idle (start : Engine) : Prop where
  sound : start.Sound
  untracked : ∀ tid, start.processes.find? tid = none
  threaded : start.slot.Threaded
  empty : ∀ tid, start.slot.waiting? tid = none

theorem idle_initial {config : Config} (perThread : config.openArgsSlot = .perThread)
    (terminator : Terminator) (assignments : Assignments) :
    (initial config terminator assignments).Idle where
  sound := sound_initial config terminator assignments
  untracked tid := Table.find?_new "process" config.maxProcesses config.tableShards _ tid
  threaded := (threaded_initial perThread terminator assignments).1
  empty := (threaded_initial perThread terminator assignments).2

/-! ## Since a moment -/

section Since

variable {start : Engine} {operations : List Operation} {before since : List Moment}
  {moment : Moment} {tid : UInt32} {flags : OpenFlags}

theorem absent_next {engine : Engine} {operation : Operation}
    (restrained : engine.dispatch.Each Routine.IsRestrained) (bounded : engine.processes.Bounded)
    (other : ∀ parent group, operation ≠ .event (.processCreate parent tid group))
    (absent : engine.processes.find? tid = none) :
    (engine.next operation).processes.find? tid = none := by
  by_cases adds : ∃ parent child group, operation = .event (.processCreate parent child group)
  · obtain ⟨parent, child, group, rfl⟩ := adds
    have different : tid ≠ child := by
      rintro rfl
      exact other parent group rfl
    exact Tracker.absent_create bounded different absent
  · have spared := spared_processes restrained bounded fun parent child group same =>
      adds ⟨parent, child, group, same⟩
    exact spared.absent bounded absent

theorem tracked_since (restrained : start.Restrained operations) (sound : start.Sound)
    (split : moments operations = before ++ moment :: since)
    (life : ∀ later ∈ since, ¬ later.Creates tid)
    (tracked : (start.after operations).processes.find? tid ≠ none) :
    ((start.after moment.past).next moment.operation).processes.find? tid ≠ none := by
  intro absent
  refine tracked (holds_since (fun engine => engine.processes.find? tid = none) split absent ?_)
  intro later member
  have inside : later ∈ moments operations := by simp [split, member]
  refine absent_next (restrained later inside) (sound.after later.past).tasks fun parent group same => ?_
  exact life later member ⟨parent, group, same⟩

theorem tracked_before (restrained : (start.after moment.past).dispatch.Each Routine.IsRestrained)
    (sound : start.Sound) (other : ¬ moment.Creates tid)
    (tracked : ((start.after moment.past).next moment.operation).processes.find? tid ≠ none) :
    (start.after moment.past).processes.find? tid ≠ none := by
  intro absent
  have bounded := (sound.after moment.past).tasks
  refine tracked (absent_next restrained bounded (fun parent group same => ?_) absent)
  exact other ⟨parent, group, same⟩

theorem waiting?_since (threaded : start.slot.Threaded)
    (split : moments operations = before ++ moment :: since)
    (quiet : ∀ later ∈ since, ¬ start.CapturesOrLeaves tid later)
    (empty : ((start.after moment.past).next moment.operation).slot.waiting? tid = none) :
    (start.after operations).slot.waiting? tid = none := by
  refine holds_since (fun engine => engine.slot.waiting? tid = none) split empty ?_
  intro later member empty
  have threaded := threaded_after threaded later.past
  rcases waiting?_of_quiet threaded (quiet later member) with same | pushed
  · exact same.trans empty
  · exact pushed.2.2

theorem not_creates_of_enters (enters : moment.Enters tid flags) : ¬ moment.Creates tid := by
  rintro ⟨parent, group, create⟩
  obtain ⟨task, _, enter⟩ := enters
  rw [create] at enter
  cases enter

/-- A task that is tracked in the end was so when it entered an open call, if it was not created
since. -/
theorem tracked_of_enters (restrained : start.Restrained operations) (sound : start.Sound)
    (split : moments operations = before ++ moment :: since) (enters : moment.Enters tid flags)
    (alive : ∀ later ∈ since, ¬ later.Creates tid)
    (tracked : (start.after operations).processes.find? tid ≠ none) :
    (start.after moment.past).processes.find? tid ≠ none :=
  tracked_before (restrained moment (by simp [split])) sound (not_creates_of_enters enters)
    (tracked_since restrained sound split alive tracked)

theorem captures_of_enters (enters : moment.Enters tid flags)
    (answer : start.answer moment ≠ .outcome (.captured false)) :
    start.Captures tid flags moment := by
  obtain ⟨past, operation⟩ := moment
  obtain ⟨task, rfl, rfl⟩ := enters
  rw [answer_openEntry] at answer
  exact captures_iff.mpr ⟨rfl, rfl, by simpa using answer⟩

theorem waiting?_of_refused (threaded : start.slot.Threaded) (enters : moment.Enters tid flags)
    (tracked : (start.after moment.past).processes.find? tid ≠ none)
    (answer : start.answer moment = .outcome (.captured false)) :
    (start.after moment.past).slot.waiting? tid = none ∧
      (start.after moment.past).slot.Full tid ∧
      ((start.after moment.past).next moment.operation).slot.waiting? tid = none := by
  obtain ⟨past, operation⟩ := moment
  obtain ⟨task, rfl, rfl⟩ := enters
  rw [answer_openEntry, Response.outcome.injEq, Outcome.captured.injEq] at answer
  have entered := entered_next (threaded_after threaded past) task flags
  rw [answer] at entered
  cases entered with
  | untracked absent _ => exact absurd absent tracked
  | tracked _ captured =>
    cases captured with
    | refused empty full same => exact ⟨empty, full, (same task.tid).trans empty⟩

end Since

/-! ## Handed and passed arguments -/

section Lives

variable {start : Engine} {operations : List Operation} {tid : UInt32} {flags : OpenFlags}

/-- The last entry of the present life divides the history, and neither a creation nor another end of
an open call comes after it. -/
theorem split_life {creation entry : Moment} {life since : List Moment}
    (born : Last (Moment.Creates tid) (moments operations) creation life)
    (hooked : Last (Moment.Hooks tid) life entry since) :
    ∃ before, moments operations = before ++ entry :: since ∧
      ∀ later ∈ since, ¬ later.Creates tid := by
  obtain ⟨⟨earlier, history⟩, _, never⟩ := born
  obtain ⟨⟨middle, rfl⟩, _, _⟩ := hooked
  refine ⟨earlier ++ creation :: middle, by simp [history], fun later member => ?_⟩
  exact never later (by simp [member])

theorem quiet_of_hooks (start : Engine) {since : List Moment}
    (never : ∀ later ∈ since, ¬ later.Hooks tid) :
    ∀ later ∈ since, ¬ start.CapturesOrLeaves tid later := by
  rintro later member (⟨flags, enters, _⟩ | leaves)
  · exact never later member (.inl ⟨flags, enters⟩)
  · exact never later member (.inr leaves)

/-- What was passed in the present life waits, unless it was not captured or pushed out. -/
theorem waiting?_of_passed (idle : start.Idle) (passed : PassedInLife tid flags operations)
    (kept : ¬ start.Misses tid operations) :
    (start.after operations).slot.waiting? tid = some flags := by
  obtain ⟨creation, life, entry, since, born, hooked, enters⟩ := passed
  obtain ⟨before, split, _⟩ := split_life born hooked
  have stays : ¬ (start.answer entry = .outcome (.captured false) ∨
      ∃ moment ∈ since, start.PushesOut tid moment) := fun lost =>
    kept ⟨creation, life, entry, since, flags, born, hooked, enters, lost⟩
  rw [not_or] at stays
  have captures := captures_of_enters enters stays.1
  rw [waiting?_eq_some_iff idle.threaded idle.empty]
  refine ⟨entry, since, ⟨⟨before, split⟩, .inl ⟨flags, captures⟩, quiet_of_hooks start hooked.never⟩,
    captures, fun moment member pushed => stays.2 ⟨moment, member, pushed⟩⟩

/-- What was passed in the present life and was not captured, or was pushed out, does not wait, nor
does anything else. -/
theorem waiting?_of_misses (restrained : start.Restrained operations) (idle : start.Idle)
    (tracked : (start.after operations).processes.find? tid ≠ none)
    (missed : start.Misses tid operations) :
    (start.after operations).slot.waiting? tid = none := by
  obtain ⟨creation, life, entry, since, flags, born, hooked, enters, lost⟩ := missed
  obtain ⟨before, split, alive⟩ := split_life born hooked
  have quiet := quiet_of_hooks start hooked.never
  rcases lost with refused | ⟨moment, member, pushed⟩
  · have present := tracked_of_enters restrained idle.sound split enters alive tracked
    exact waiting?_since idle.threaded split quiet
      (waiting?_of_refused idle.threaded enters present refused).2.2
  · obtain ⟨early, late, rfl, within⟩ := split_within split member
    exact waiting?_since idle.threaded within
      (fun later inside => quiet later (by simp [inside])) pushed.2.2

theorem exists_creation (restrained : start.Restrained operations) (idle : start.Idle)
    (tracked : (start.after operations).processes.find? tid ≠ none) :
    ∃ moment ∈ moments operations, moment.Creates tid := by
  by_contra none
  rw [not_exists] at none
  refine tracked (holds_after (fun engine => engine.processes.find? tid = .none)
    (idle.untracked tid) fun later member => ?_)
  have bounded := (idle.sound.after later.past).tasks
  refine absent_next (restrained later member) bounded fun parent group same => ?_
  exact none later ⟨member, parent, group, same⟩

/-- What was captured last waits at each moment since, if nothing pushed it out. -/
theorem waiting?_within {entry moment : Moment} {since : List Moment} (idle : start.Idle)
    (last : Last (start.CapturesOrLeaves tid) (moments operations) entry since)
    (captures : start.Captures tid flags entry)
    (kept : ∀ later ∈ since, ¬ start.PushesOut tid later) (member : moment ∈ since) :
    (start.after moment.past).slot.waiting? tid = some flags := by
  obtain ⟨⟨before, split⟩, here, never⟩ := last
  obtain ⟨early, late, rfl, within⟩ := split_within split member
  rw [waiting?_eq_some_iff idle.threaded idle.empty]
  refine ⟨entry, early, ⟨⟨before, ?_⟩, here, ?_⟩, captures, ?_⟩
  · exact (moments_split within).1.symm
  · exact fun later inside => never later (by simp [inside])
  · exact fun later inside => kept later (by simp [inside])

/-- While a capture waits, a tracked task does not come to another end of an open call but by another
capture or an exit. -/
theorem not_hooks_since {entry : Moment} {since : List Moment}
    (restrained : start.Restrained operations) (idle : start.Idle)
    (tracked : (start.after operations).processes.find? tid ≠ none)
    (last : Last (start.CapturesOrLeaves tid) (moments operations) entry since)
    (captures : start.Captures tid flags entry)
    (kept : ∀ moment ∈ since, ¬ start.PushesOut tid moment)
    (alive : ∀ moment ∈ since, ¬ moment.Creates tid) :
    ∀ moment ∈ since, ¬ moment.Hooks tid := by
  rintro moment member (⟨passed, enters⟩ | leaves)
  · by_cases refused : start.answer moment = .outcome (.captured false)
    · -- A refusal needs an empty place, but the capture is still there.
      have waits := waiting?_within idle last captures kept member
      obtain ⟨before, split⟩ := last.split
      obtain ⟨early, late, rfl, within⟩ := split_within split member
      have present := tracked_of_enters restrained idle.sound within enters
        (fun later inside => alive later (by simp [inside])) tracked
      have empty := (waiting?_of_refused idle.threaded enters present refused).1
      rw [empty] at waits
      cases waits
    · exact last.never moment member (.inl ⟨passed, captures_of_enters enters refused⟩)
  · exact last.never moment member (.inr leaves)

/-- What waits for a tracked task was passed in its present life, unless it is from before that. -/
theorem passed_of_waiting? (restrained : start.Restrained operations) (idle : start.Idle)
    (tracked : (start.after operations).processes.find? tid ≠ none)
    (waits : (start.after operations).slot.waiting? tid = some flags)
    (own : ¬ start.Leaks tid operations) : PassedInLife tid flags operations := by
  rw [waiting?_eq_some_iff idle.threaded idle.empty] at waits
  obtain ⟨entry, since, last, captures, kept⟩ := waits
  have alive : ∀ moment ∈ since, ¬ moment.Creates tid := fun moment member creates =>
    own ⟨flags, entry, since, last, captures, ⟨moment, member, creates⟩, kept⟩
  have unhooked := not_hooks_since restrained idle tracked last captures kept alive
  have other := not_creates_of_enters captures.1
  obtain ⟨before, split⟩ := last.split
  -- The task was tracked at its capture, so the present life began before that.
  have present := tracked_of_enters restrained idle.sound split captures.1 alive tracked
  have earlier : start.Restrained entry.past := fun moment member =>
    restrained moment (by rw [split, (moments_split split).1]; exact List.mem_append_left _ member)
  obtain ⟨creation, early, born⟩ := Last.exists_of_mem (exists_creation earlier idle present)
  rw [← (moments_split split).1] at born
  have later : ∀ moment ∈ entry :: since, ¬ moment.Creates tid := by
    intro moment member
    rcases List.mem_cons.mp member with rfl | inside
    · exact other
    · exact alive moment inside
  have born := born.append later
  rw [← split] at born
  exact ⟨creation, _, entry, since, born, ⟨⟨early, rfl⟩, .inl ⟨flags, captures.1⟩, unhooked⟩,
    captures.1⟩

theorem waits_of_leaks (idle : start.Idle) (leaks : start.Leaks tid operations) :
    (start.after operations).slot.waiting? tid ≠ none := by
  obtain ⟨held, entry, since, last, captures, _, kept⟩ := leaks
  have waits := (waiting?_eq_some_iff idle.threaded idle.empty operations tid held).mpr
    ⟨entry, since, last, captures, kept⟩
  simp [waits]

theorem not_passed_of_leaks (restrained : start.Restrained operations) (idle : start.Idle)
    (tracked : (start.after operations).processes.find? tid ≠ none)
    (leaks : start.Leaks tid operations) : ¬ PassedInLife tid flags operations := by
  have waits := waits_of_leaks idle leaks
  obtain ⟨held, entry, since, last, captures, ⟨birth, member, creates⟩, kept⟩ := leaks
  rintro ⟨creation, life, latest, rest, born, hooked, enters⟩
  obtain ⟨before, split, alive⟩ := split_life born hooked
  have quiet := quiet_of_hooks start hooked.never
  by_cases refused : start.answer latest = .outcome (.captured false)
  · have present := tracked_of_enters restrained idle.sound split enters alive tracked
    have empty := waiting?_since idle.threaded split quiet
      (waiting?_of_refused idle.threaded enters present refused).2.2
    exact waits empty
  · -- Otherwise the entry of this life is itself the last capture, and no creation follows it.
    have newest : Last (start.CapturesOrLeaves tid) (moments operations) latest rest :=
      ⟨⟨before, split⟩, .inl ⟨flags, captures_of_enters enters refused⟩, quiet⟩
    obtain ⟨_, rfl⟩ := last.unique newest
    exact alive birth member creates

/-- What waits for a tracked task is exactly what was passed in its present life, if and only if no
earlier capture waits and the latest one has not been missed. -/
theorem waiting?_iff_passed (restrained : start.Restrained operations) (idle : start.Idle)
    (tracked : (start.after operations).processes.find? tid ≠ none) :
    (∀ flags, (start.after operations).slot.waiting? tid = some flags ↔
        PassedInLife tid flags operations) ↔
      ¬ start.Leaks tid operations ∧ ¬ start.Misses tid operations := by
  constructor
  · intro exact
    refine ⟨fun leaks => ?_, fun missed => ?_⟩
    · obtain ⟨flags, waits⟩ := Option.ne_none_iff_exists'.mp (waits_of_leaks idle leaks)
      exact not_passed_of_leaks restrained idle tracked leaks ((exact flags).mp waits)
    · have empty := waiting?_of_misses restrained idle tracked missed
      obtain ⟨creation, life, entry, since, flags, born, hooked, enters, _⟩ := missed
      have waits := (exact flags).mpr ⟨creation, life, entry, since, born, hooked, enters⟩
      rw [empty] at waits
      cases waits
  · rintro ⟨own, kept⟩ flags
    exact ⟨fun waits => passed_of_waiting? restrained idle tracked waits own,
      fun passed => waiting?_of_passed idle passed kept⟩

end Lives

end Engine

end Confinement
