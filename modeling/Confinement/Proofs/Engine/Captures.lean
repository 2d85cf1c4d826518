import Confinement.Proofs.Engine.History

/-! The captured arguments of each thread as the history of the run tells them.

With a place for each thread, what waits for a thread are the arguments of its own last entry, unless
the thread has left the call since or the entry of another thread has pushed the capture out. So a
routine sees no arguments but those that its own caller passed.
-/

set_option autoImplicit false

namespace Confinement

/-! ## The slot -/

namespace OpenSlot

def waiting? (slot : OpenSlot) (tid : UInt32) : Option OpenFlags :=
  (slot.take tid).2

def evicted : OpenSlot → Nat
  | perThread table => table.evicted
  | shared _ => 0

def Full (slot : OpenSlot) (tid : UInt32) : Prop :=
  match slot with
  | perThread table => (table.shardOf tid).capacity ≤ (table.shardOf tid).size
  | shared _ => False

inductive Threaded : OpenSlot → Prop where
  | intro {table : Table UInt32 OpenFlags} (bounded : table.Bounded) : Threaded (.perThread table)

@[simp] theorem waiting?_perThread (table : Table UInt32 OpenFlags) (tid : UInt32) :
    (perThread table).waiting? tid = table.find? tid := by
  rw [waiting?, take_perThread]

theorem Follows.evicted {before after : OpenSlot} (follows : Follows before after) :
    before.evicted ≤ after.evicted := by
  cases follows with
  | perThread table => exact table.evicted
  | shared => exact Nat.le_refl _

theorem Follows.threaded {before after : OpenSlot} (follows : Follows before after)
    (threaded : before.Threaded) : after.Threaded := by
  cases threaded with
  | intro bounded =>
    cases follows with
    | perThread table => exact .intro (table.bounded bounded)

theorem Threaded.waiting?_take {slot : OpenSlot} (threaded : slot.Threaded) (tid other : UInt32) :
    (slot.take tid).1.waiting? other = if other = tid then none else slot.waiting? other := by
  cases threaded with
  | intro bounded => simp [bounded.find?_delete]

inductive Captured (before : OpenSlot) (tid : UInt32) (flags : OpenFlags) (after : OpenSlot) :
    Bool → Prop where
  | refused (empty : before.waiting? tid = none) (full : before.Full tid)
      (same : ∀ other, after.waiting? other = before.waiting? other) :
      Captured before tid flags after false
  | kept (stored : after.waiting? tid = some flags)
      (others : ∀ other, other ≠ tid → after.waiting? other = before.waiting? other) :
      Captured before tid flags after true
  | pushing (stored : after.waiting? tid = some flags) (empty : before.waiting? tid = none)
      (full : before.Full tid)
      (others : ∀ other, other ≠ tid →
        after.waiting? other = none ∨ after.waiting? other = before.waiting? other)
      (evicted : after.evicted = before.evicted + 1) : Captured before tid flags after true

theorem captured_capture {slot : OpenSlot} (threaded : slot.Threaded) (tid : UInt32)
    (flags : OpenFlags) :
    slot.Captured tid flags (slot.capture tid flags).value.1 (slot.capture tid flags).value.2 := by
  cases threaded with
  | @intro table bounded =>
    have updated := Table.updated_update bounded tid flags
    rw [value_capture_perThread]
    cases answer : (table.update tid flags).2 with
    | error failure =>
      rw [answer] at updated
      cases updated with
      | refused absent full found _ =>
        exact .refused (by simpa using absent) full fun other => by simpa using found other
    | ok previous =>
      rw [answer] at updated
      -- Replacing and inserting come to the same.
      have kept : (∀ other, (table.update tid flags).1.find? other =
          if other = tid then some flags else table.find? other) →
          (perThread table).Captured tid flags (perThread (table.update tid flags).1) true := by
        intro found
        refine .kept (by simp [found]) fun other different => ?_
        simp [found, different]
      cases updated with
      | replaced _ found _ => exact kept found
      | inserted _ found _ => exact kept found
      | evicting absent full stored others evicted =>
        refine .pushing (by simpa using stored) (by simpa using absent) full ?_ evicted
        simpa using others

end OpenSlot

/-! ## One operation -/

namespace Engine

variable {engine : Engine} {operation : Operation}

inductive Entered (engine : Engine) (task : Task) (flags : OpenFlags) (after : Engine) :
    Bool → Prop where
  | untracked (absent : engine.processes.find? task.tid = none) (same : after.slot = engine.slot) :
      Entered engine task flags after false
  | tracked {answer : Bool} (present : engine.processes.find? task.tid ≠ none)
      (captured : engine.slot.Captured task.tid flags after.slot answer) :
      Entered engine task flags after answer

theorem entered_next (threaded : engine.slot.Threaded) (task : Task) (flags : OpenFlags) :
    engine.Entered task flags (engine.next (.event (.openEntry task flags)))
      (engine.enterOpen task flags).value.2 := by
  change engine.Entered task flags (engine.enterOpen task flags).value.1 _
  cases present : engine.processes.find? task.tid with
  | none =>
    rw [enterOpen_untracked present]
    exact .untracked present rfl
  | some record =>
    rw [enterOpen_tracked present]
    have tracked : engine.processes.find? task.tid ≠ none := by simp [present]
    exact .tracked tracked (OpenSlot.captured_capture threaded task.tid flags)

theorem waiting?_next_exit (threaded : engine.slot.Threaded) (task : Task) (tid : UInt32) :
    (engine.next (.event (.openExit task))).slot.waiting? tid =
      if tid = task.tid then none else engine.slot.waiting? tid := by
  rw [← threaded.waiting?_take, ← slot_exitOpen]
  rfl

end Engine

/-! ## What the history tells -/

namespace Engine

variable {start : Engine} {operations : List Operation} {operation : Operation} {tid : UInt32}
  {flags : OpenFlags}

/-- An entry of the thread that was answered with a capture of these arguments. -/
def Captures (start : Engine) (tid : UInt32) (flags : OpenFlags) (moment : Moment) : Prop :=
  moment.Enters tid flags ∧ start.answer moment = .outcome (.captured true)

def CapturesOrLeaves (start : Engine) (tid : UInt32) (moment : Moment) : Prop :=
  (∃ flags, start.Captures tid flags moment) ∨ moment.Leaves tid

/-- An entry of another thread that makes the waiting arguments of the thread go. -/
def PushesOut (start : Engine) (tid : UInt32) (moment : Moment) : Prop :=
  (∃ task flags, task.tid ≠ tid ∧ moment.operation = .event (.openEntry task flags)) ∧
    (start.after moment.past).slot.waiting? tid ≠ none ∧
    ((start.after moment.past).next moment.operation).slot.waiting? tid = none

theorem answer_openEntry (start : Engine) (past : List Operation) (task : Task)
    (flags : OpenFlags) :
    start.answer ⟨past, .event (.openEntry task flags)⟩ =
      .outcome (.captured ((start.after past).enterOpen task flags).value.2) := rfl

theorem captures_iff {task : Task} {passed : OpenFlags} :
    start.Captures tid flags ⟨operations, .event (.openEntry task passed)⟩ ↔
      task.tid = tid ∧ passed = flags ∧
        ((start.after operations).enterOpen task passed).value.2 = true := by
  rw [Captures, answer_openEntry]
  constructor
  · rintro ⟨⟨_, same, entry⟩, captured⟩
    cases entry
    rw [Response.outcome.injEq, Outcome.captured.injEq] at captured
    exact ⟨same, rfl, captured⟩
  · rintro ⟨same, rfl, captured⟩
    exact ⟨⟨task, same, rfl⟩, by rw [captured]⟩

theorem threaded_after (threaded : start.slot.Threaded) (operations : List Operation) :
    (start.after operations).slot.Threaded := by
  exact (start.follows_slot_after operations).threaded threaded

theorem waiting?_of_captures (threaded : (start.after operations).slot.Threaded)
    (captures : start.Captures tid flags ⟨operations, operation⟩) :
    ((start.after operations).next operation).slot.waiting? tid = some flags := by
  obtain ⟨⟨task, rfl, rfl⟩, answer⟩ := captures
  have captured := (captures_iff.mp ⟨⟨task, rfl, rfl⟩, answer⟩).2.2
  have entered := entered_next threaded task flags
  rw [captured] at entered
  cases entered with
  | tracked _ kept =>
    cases kept with
    | kept stored _ => exact stored
    | pushing stored _ _ _ _ => exact stored

theorem tracked_of_captures (threaded : (start.after operations).slot.Threaded)
    (captures : start.Captures tid flags ⟨operations, operation⟩) :
    (start.after operations).processes.find? tid ≠ none := by
  obtain ⟨⟨task, rfl, rfl⟩, answer⟩ := captures
  have captured := (captures_iff.mp ⟨⟨task, rfl, rfl⟩, answer⟩).2.2
  have entered := entered_next threaded task flags
  rw [captured] at entered
  cases entered with
  | tracked present _ => exact present

theorem waiting?_of_leaves (threaded : (start.after operations).slot.Threaded)
    (leaves : Moment.Leaves tid ⟨operations, operation⟩) :
    ((start.after operations).next operation).slot.waiting? tid = none := by
  obtain ⟨task, rfl, rfl⟩ := leaves
  rw [waiting?_next_exit threaded, if_pos rfl]

/-- Whatever else happens leaves the waiting arguments of a thread, or pushes them out. -/
theorem waiting?_of_quiet (threaded : (start.after operations).slot.Threaded)
    (quiet : ¬ start.CapturesOrLeaves tid ⟨operations, operation⟩) :
    ((start.after operations).next operation).slot.waiting? tid =
        (start.after operations).slot.waiting? tid ∨
      start.PushesOut tid ⟨operations, operation⟩ := by
  by_cases leaves : ∃ task, operation = .event (.openExit task)
  · obtain ⟨task, rfl⟩ := leaves
    have other : tid ≠ task.tid := fun same => quiet (.inr ⟨task, same.symm, rfl⟩)
    rw [waiting?_next_exit threaded, if_neg other]
    exact .inl rfl
  by_cases enters : ∃ task flags, operation = .event (.openEntry task flags)
  · obtain ⟨task, flags, rfl⟩ := enters
    have entered := entered_next threaded task flags
    cases answer : ((start.after operations).enterOpen task flags).value.2 with
    | false =>
      rw [answer] at entered
      cases entered with
      | untracked _ same => exact .inl (by rw [same])
      | tracked _ captured =>
        cases captured with
        | refused _ _ same => exact .inl (same tid)
    | true =>
      have other : tid ≠ task.tid := fun same =>
        quiet (.inl ⟨flags, captures_iff.mpr ⟨same.symm, rfl, answer⟩⟩)
      rw [answer] at entered
      cases entered with
      | tracked _ captured =>
        cases captured with
        | kept _ others => exact .inl (others tid other)
        | pushing _ _ _ others _ =>
          rcases others tid other with gone | same
          · by_cases waits : (start.after operations).slot.waiting? tid = none
            · exact .inl (gone.trans waits.symm)
            · exact .inr ⟨⟨task, flags, other.symm, rfl⟩, waits, gone⟩
          · exact .inl same
  · refine .inl ?_
    rw [slot_next fun task flags same => enters ⟨task, flags, same⟩]
    exact fun task same => leaves ⟨task, same⟩

/-- What waits for a thread are the arguments of its last capture, if the thread has not left the call
since and the capture has not been pushed out. -/
theorem waiting?_eq_some_iff (threaded : start.slot.Threaded)
    (empty : ∀ tid, start.slot.waiting? tid = none) (operations : List Operation) (tid : UInt32)
    (flags : OpenFlags) :
    (start.after operations).slot.waiting? tid = some flags ↔
      ∃ entry since, Last (start.CapturesOrLeaves tid) (moments operations) entry since ∧
        start.Captures tid flags entry ∧ ∀ moment ∈ since, ¬ start.PushesOut tid moment := by
  -- The newest operation is an end of the call, or it is quiet and leaves what waits or pushes it out.
  induction operations using List.reverseRecOn with
  | nil =>
    rw [after_nil, empty tid]
    simp [Last.not_nil]
  | append_singleton earlier operation ih =>
    have before := threaded_after threaded earlier
    rw [after_concat, moments_concat]
    by_cases newest : start.CapturesOrLeaves tid ⟨earlier, operation⟩
    · simp only [Last.concat_here newest]
      constructor
      · intro found
        rcases newest with ⟨passed, captures⟩ | leaves
        · rw [waiting?_of_captures before captures, Option.some.injEq] at found
          exact ⟨_, _, ⟨rfl, rfl⟩, found ▸ captures, by simp⟩
        · rw [waiting?_of_leaves before leaves] at found
          cases found
      · rintro ⟨_, _, ⟨rfl, rfl⟩, captures, _⟩
        exact waiting?_of_captures before captures
    · simp only [Last.concat_quiet newest]
      rcases waiting?_of_quiet before newest with same | pushed
      · have stays : ¬ start.PushesOut tid ⟨earlier, operation⟩ := fun pushed =>
          pushed.2.1 (same.symm.trans pushed.2.2)
        rw [same, ih]
        constructor
        · rintro ⟨entry, rest, last, captures, kept⟩
          refine ⟨entry, _, ⟨rest, rfl, last⟩, captures, fun moment member => ?_⟩
          rcases List.mem_append.mp member with inside | final
          · exact kept moment inside
          · exact List.mem_singleton.mp final ▸ stays
        · rintro ⟨entry, _, ⟨rest, rfl, last⟩, captures, kept⟩
          exact ⟨entry, rest, last, captures, fun moment member =>
            kept moment (List.mem_append_left _ member)⟩
      · have gone := pushed.2.2
        constructor
        · intro found
          rw [gone] at found
          cases found
        · rintro ⟨entry, _, ⟨rest, rfl, _⟩, _, kept⟩
          exact absurd pushed (kept _ (by simp))

/-! ## What is handed to a routine -/

theorem evicted_of_pushesOut {moment : Moment}
    (threaded : (start.after moment.past).slot.Threaded) (pushed : start.PushesOut tid moment) :
    ((start.after moment.past).next moment.operation).slot.evicted =
      (start.after moment.past).slot.evicted + 1 := by
  obtain ⟨past, operation⟩ := moment
  obtain ⟨⟨task, flags, other, rfl⟩, waits, gone⟩ := pushed
  have entered := entered_next threaded task flags
  generalize ((start.after past).enterOpen task flags).value.2 = answer at entered
  cases entered with
  | untracked _ same => exact absurd (same ▸ gone) waits
  | tracked _ captured =>
    cases captured with
    | refused _ _ same => exact absurd ((same tid).symm.trans gone) waits
    | kept _ others => exact absurd ((others tid other.symm).symm.trans gone) waits
    | pushing _ _ _ _ evicted => exact evicted

theorem evicted_mono (start : Engine) {early late : List Operation} (earlier : early <+: late) :
    (start.after early).slot.evicted ≤ (start.after late).slot.evicted := by
  obtain ⟨rest, rfl⟩ := earlier
  rw [after_append]
  exact ((start.after early).follows_slot_after rest).evicted

theorem not_pushesOut_of_evicted {entry moment : Moment} {before since : List Moment}
    (threaded : start.slot.Threaded)
    (split : moments operations = before ++ entry :: since) (member : moment ∈ since)
    (still : (start.after (entry.past ++ [entry.operation])).slot.evicted =
      (start.after operations).slot.evicted) : ¬ start.PushesOut tid moment := by
  intro pushed
  obtain ⟨first, last⟩ := prefix_of_mem_since split member
  have counted := evicted_of_pushesOut (threaded_after threaded moment.past) pushed
  have early := evicted_mono start first
  have late := evicted_mono start last
  rw [after_concat start moment.past] at late
  omega

theorem threaded_initial {config : Config} (perThread : config.openArgsSlot = .perThread)
    (terminator : Terminator) (assignments : Assignments) :
    (initial config terminator assignments).slot.Threaded ∧
      ∀ tid, (initial config terminator assignments).slot.waiting? tid = none := by
  have slot : (initial config terminator assignments).slot =
      .perThread (Table.new "open_args" config.maxProcesses config.tableShards
        assignments.openArgs) := by
    rw [initial, perThread]
    rfl
  rw [slot]
  refine ⟨.intro (Table.each_new _ _ _ _ Shard.bounded_empty), fun tid => ?_⟩
  rw [OpenSlot.waiting?_perThread, Table.find?_new]

theorem handed?_eq {task : Task} {handed : Option OpenFlags}
    (called : (start.after operations).handed? task = some handed) :
    handed = (start.after operations).slot.waiting? task.tid :=
  eq_of_handed? called

theorem isSome_handed?_after_iff (start : Engine) (operations : List Operation) (task : Task) :
    ((start.after operations).handed? task).isSome ↔ ∃ index verdict,
      start.answer ⟨operations, .event (.openExit task)⟩ =
        .outcome (.opened (.dispatched index verdict)) := by
  have answer : start.answer ⟨operations, .event (.openExit task)⟩ =
      .outcome (.opened ((start.after operations).exitOpen task).value.2) := rfl
  rw [isSome_handed?_iff, answer]
  simp

/-- With a place for each thread, the arguments that a routine is handed are those of the last capture
of its caller, which the caller has not left since. They are handed if nothing has been pushed out of
the slot since that capture, and no others ever are. -/
theorem handed_own_capture {config : Config} {terminator : Terminator} {assignments : Assignments}
    (built : (build config terminator assignments).value = .ok start)
    (perThread : config.openArgsSlot = .perThread) (operations : List Operation) (task : Task) :
    (((start.after operations).handed? task).isSome ↔ ∃ index verdict,
      start.answer ⟨operations, .event (.openExit task)⟩ =
        .outcome (.opened (.dispatched index verdict))) ∧
    (∀ flags, (start.after operations).handed? task = some (some flags) →
      ∃ entry since, Last (start.CapturesOrLeaves task.tid) (moments operations) entry since ∧
        start.Captures task.tid flags entry) ∧
    (∀ flags handed entry since, (start.after operations).handed? task = some handed →
      Last (start.CapturesOrLeaves task.tid) (moments operations) entry since →
      start.Captures task.tid flags entry →
      (start.after (entry.past ++ [entry.operation])).slot.evicted =
        (start.after operations).slot.evicted →
      handed = some flags) ∧
    (∀ flags, (start.after operations).handed? task = some (some flags) →
      ∃ moment ∈ moments operations, ∃ caller : Task, caller.tid = task.tid ∧
        moment.operation = .event (.openEntry caller flags)) := by
  obtain ⟨threaded, empty⟩ := threaded_initial perThread terminator assignments
  rw [← eq_initial_of_build built] at threaded empty
  have waits := waiting?_eq_some_iff threaded empty operations task.tid
  have own : ∀ flags, (start.after operations).handed? task = some (some flags) →
      ∃ entry since, Last (start.CapturesOrLeaves task.tid) (moments operations) entry since ∧
        start.Captures task.tid flags entry := by
    intro flags called
    obtain ⟨entry, since, last, captures, _⟩ := (waits flags).mp (handed?_eq called).symm
    exact ⟨entry, since, last, captures⟩
  refine ⟨isSome_handed?_after_iff start operations task, own,
    fun flags handed entry since called last captures still => ?_, ?_⟩
  · obtain ⟨before, split⟩ := last.split
    rw [handed?_eq called]
    exact (waits flags).mpr ⟨entry, since, last, captures, fun moment member =>
      not_pushesOut_of_evicted threaded split member still⟩
  · intro flags called
    obtain ⟨entry, since, last, ⟨caller, same, entered⟩, _⟩ := own flags called
    obtain ⟨before, split⟩ := last.split
    exact ⟨entry, by simp [split], caller, same, entered⟩

def interleaved : List Operation :=
  [.install (Executable.profileKey ⟨0, 5⟩) 0 (.described .allowAll),
    .event (.processCreate 0 7 7), .event (.programLoad 7 ⟨0, 5⟩), .event (.processCreate 7 8 8),
    .event (.openEntry ⟨7, 7⟩ (.forOpen 0 0)), .event (.openEntry ⟨8, 8⟩ (.forOpen 1 0))]

theorem handed_own_capture_interleaved :
    (pair.after interleaved).handed? ⟨7, 7⟩ = some (some (.forOpen 0 0)) ∧
      ∃ moment ∈ moments interleaved, ∃ caller : Task, caller.tid = 7 ∧
        moment.operation = .event (.openEntry caller (.forOpen 0 0)) := by
  have called : (pair.after interleaved).handed? ⟨7, 7⟩ = some (some (.forOpen 0 0)) := by
    decide +kernel
  exact ⟨called, (handed_own_capture build_pair rfl interleaved ⟨7, 7⟩).2.2.2 _ called⟩

end Engine

end Confinement
