import Confinement.Proofs.Engine.Captures

/-! The one place for all callers as the history of the run tells it.

Whoever is tracked when it enters an open call writes to it, and nothing empties it. So a routine is handed
the arguments of the latest such entry, whoever made it, and those of its own caller unless another thread
has entered a call since.
-/

set_option autoImplicit false

namespace Confinement

namespace Engine

variable {start : Engine} {operations : List Operation} {operation : Operation} {tid : UInt32}
  {flags : OpenFlags} {cell : Option OpenFlags}

def EntersTracked (start : Engine) (tid : UInt32) (flags : OpenFlags) (moment : Moment) : Prop :=
  moment.Enters tid flags ∧ (start.after moment.past).processes.contains tid

def Overwrites (start : Engine) (moment : Moment) : Prop :=
  ∃ tid flags, start.EntersTracked tid flags moment

def CapturesOwn (start : Engine) (tid : UInt32) (moment : Moment) : Prop :=
  ∃ flags, start.Captures tid flags moment

def LastPassed (start : Engine) (operations : List Operation) (cell : Option OpenFlags) : Prop :=
  ∀ flags, cell = some flags ↔
    ∃ entry since, Last start.Overwrites (moments operations) entry since ∧
      ∃ tid, start.EntersTracked tid flags entry

theorem EntersTracked.flags_eq {moment : Moment} {other : UInt32} {passed : OpenFlags}
    (first : start.EntersTracked tid flags moment) (second : start.EntersTracked other passed moment) :
    passed = flags := by
  obtain ⟨⟨_, _, entry⟩, _⟩ := first
  obtain ⟨⟨_, _, again⟩, _⟩ := second
  rw [entry] at again
  cases again
  rfl

/-! ## One operation -/

/-- With one place for all, an entry is answered with a capture exactly if its caller is tracked. -/
theorem captures_iff_entersTracked {moment : Moment}
    (place : (start.after moment.past).slot = .shared cell) :
    start.Captures tid flags moment ↔ start.EntersTracked tid flags moment := by
  obtain ⟨past, operation⟩ := moment
  refine and_congr_right ?_
  rintro ⟨task, rfl, rfl⟩
  rw [answer_openEntry, (value_enterOpen_shared place task flags).2]
  simp

theorem slot_of_entersTracked (place : (start.after operations).slot = .shared cell)
    (enters : start.EntersTracked tid flags ⟨operations, operation⟩) :
    ((start.after operations).next operation).slot = .shared (some flags) := by
  obtain ⟨⟨task, rfl, rfl⟩, tracked⟩ := enters
  refine (value_enterOpen_shared place task flags).1.trans ?_
  rw [if_pos tracked]

/-- Nothing else writes to the place, an exit no more than any other operation. -/
theorem slot_of_not_overwrites (place : (start.after operations).slot = .shared cell)
    (quiet : ¬ start.Overwrites ⟨operations, operation⟩) :
    ((start.after operations).next operation).slot = .shared cell := by
  by_cases leaves : ∃ task, operation = .event (.openExit task)
  · obtain ⟨task, rfl⟩ := leaves
    refine ((start.after operations).slot_exitOpen task).trans ?_
    rw [place]
    rfl
  by_cases enters : ∃ task flags, operation = .event (.openEntry task flags)
  · obtain ⟨task, flags, rfl⟩ := enters
    have untracked : ¬ (start.after operations).processes.contains task.tid := fun tracked =>
      quiet ⟨task.tid, flags, ⟨task, rfl, rfl⟩, tracked⟩
    refine (value_enterOpen_shared place task flags).1.trans ?_
    rw [if_neg untracked]
  · rw [slot_next fun task flags same => enters ⟨task, flags, same⟩]
    · exact place
    · exact fun task same => leaves ⟨task, same⟩

/-! ## What the history tells -/

/-- What the place holds is what the latest of those who were tracked has passed. -/
theorem slot_after_shared (empty : start.slot = .shared none) (operations : List Operation) :
    ∃ cell, (start.after operations).slot = .shared cell ∧ start.LastPassed operations cell := by
  induction operations using List.reverseRecOn with
  | nil =>
    refine ⟨none, empty, fun flags => ?_⟩
    simp [Last.not_nil]
  | append_singleton earlier operation ih =>
    obtain ⟨cell, place, told⟩ := ih
    rw [after_concat]
    by_cases newest : start.Overwrites ⟨earlier, operation⟩
    · have here := newest
      obtain ⟨tid, passed, enters⟩ := newest
      refine ⟨some passed, slot_of_entersTracked place enters, fun flags => ?_⟩
      simp only [moments_concat, Last.concat_here here]
      constructor
      · rintro ⟨⟩
        exact ⟨_, _, ⟨rfl, rfl⟩, tid, enters⟩
      · rintro ⟨_, _, ⟨rfl, rfl⟩, other, again⟩
        rw [enters.flags_eq again]
    · refine ⟨cell, slot_of_not_overwrites place newest, fun flags => ?_⟩
      simp only [moments_concat, Last.concat_quiet newest]
      rw [told flags]
      constructor
      · rintro ⟨entry, since, last, enters⟩
        exact ⟨entry, _, ⟨since, rfl, last⟩, enters⟩
      · rintro ⟨entry, _, ⟨since, rfl, last⟩, enters⟩
        exact ⟨entry, since, last, enters⟩

theorem LastPassed.none_iff (told : start.LastPassed operations cell) :
    cell = none ↔ ∀ moment ∈ moments operations, ¬ start.Overwrites moment := by
  constructor
  · rintro rfl moment member overwrites
    obtain ⟨entry, since, last⟩ := Last.exists_of_mem ⟨moment, member, overwrites⟩
    obtain ⟨tid, flags, enters⟩ := last.here
    cases (told flags).mpr ⟨entry, since, last, tid, enters⟩
  · intro never
    cases content : cell with
    | none => rfl
    | some flags =>
      obtain ⟨entry, since, last, _⟩ := (told flags).mp content
      obtain ⟨before, split⟩ := last.split
      exact absurd last.here (never entry (by simp [split]))

/-- The latest of those who were tracked entered since the own entry of a thread, or that entry is the
latest. -/
theorem last_overwrites_since {own : Moment} {since : List Moment} {happens : Moment → Prop}
    (last : Last happens (moments operations) own since) (overwrites : start.Overwrites own) :
    Last start.Overwrites (moments operations) own since ∨
      ∃ other ∈ since, ∃ rest, Last start.Overwrites (moments operations) other rest := by
  obtain ⟨before, split⟩ := last.split
  by_cases later : ∃ other ∈ since, start.Overwrites other
  · obtain ⟨other, rest, latest⟩ := Last.exists_of_mem later
    obtain ⟨between, inside⟩ := latest.split
    refine .inr ⟨other, by simp [inside], rest, ?_⟩
    rw [split, List.append_cons]
    exact latest.prepend _
  · exact .inl ⟨⟨before, split⟩, overwrites, fun moment member happened =>
      later ⟨moment, member, happened⟩⟩

/-! ## What is handed to a routine -/

/-- What the routine of a call is handed, after operations, where there is one place for all callers. -/
structure HandsLatest (start : Engine) (operations : List Operation) (task : Task) : Prop where
  dispatched : ((start.after operations).handed? task).isSome ↔ ∃ index verdict,
    start.answer ⟨operations, .event (.openExit task)⟩ =
      .outcome (.opened (.dispatched index verdict))
  latest : ∀ handed, (start.after operations).handed? task = some handed →
    start.LastPassed operations handed
  never : ∀ handed, (start.after operations).handed? task = some handed →
    (handed = none ↔ ∀ moment ∈ moments operations, ¬ start.Overwrites moment)
  captured : ∀ moment tid flags,
    start.Captures tid flags moment ↔ start.EntersTracked tid flags moment
  foreign : ∀ handed, (start.after operations).handed? task = some handed →
    ∀ flags own since, Last (start.CapturesOwn task.tid) (moments operations) own since →
      start.Captures task.tid flags own → handed ≠ some flags →
        ∃ other ∈ since, ∃ tid passed, start.Captures tid passed other ∧ tid ≠ task.tid ∧
          passed ≠ flags ∧ handed = some passed

theorem slot_of_handed {handed cell : Option OpenFlags} {task : Task}
    (called : (start.after operations).handed? task = some handed)
    (place : (start.after operations).slot = .shared cell) : handed = cell := by
  rw [eq_of_handed? called, place]
  rfl

/-- With one place for all callers, a routine is handed the arguments of the latest entry by a tracked
thread, and none exactly if there was no such entry. They differ from those that its own caller has last
passed only if another thread has passed them since. -/
theorem handed_latest_entry {config : Config} {terminator : Terminator} {assignments : Assignments}
    (built : (build config terminator assignments).value = .ok start)
    (shared : config.openArgsSlot = .shared) (operations : List Operation) (task : Task) :
    start.HandsLatest operations task := by
  have empty : start.slot = .shared none := by
    rw [eq_initial_of_build built, initial, shared]
    rfl
  obtain ⟨cell, place, told⟩ := slot_after_shared empty operations
  have captured : ∀ moment tid flags,
      start.Captures tid flags moment ↔ start.EntersTracked tid flags moment := by
    intro moment tid flags
    obtain ⟨cell, place, _⟩ := slot_after_shared empty moment.past
    exact captures_iff_entersTracked place
  constructor
  case dispatched => exact isSome_handed?_after_iff start operations task
  case latest =>
    intro handed called
    rw [slot_of_handed called place]
    exact told
  case never =>
    intro handed called
    rw [slot_of_handed called place]
    exact told.none_iff
  case captured => exact captured
  case foreign =>
    intro handed called flags own since last captures differs
    rw [slot_of_handed called place] at differs ⊢
    have enters := (captured own task.tid flags).mp captures
    rcases last_overwrites_since last ⟨task.tid, flags, enters⟩ with
      alone | ⟨other, member, rest, latest⟩
    · exact absurd ((told flags).mpr ⟨own, since, alone, task.tid, enters⟩) differs
    · obtain ⟨tid, passed, again⟩ := latest.here
      have content := (told passed).mpr ⟨other, rest, latest, tid, again⟩
      have captures := (captured other tid passed).mpr again
      refine ⟨other, member, tid, passed, captures, ?_, ?_, content⟩
      · rintro rfl
        exact last.never other member ⟨passed, captures⟩
      · rintro rfl
        exact differs content

def commonPair : Engine :=
  initial ⟨2, 2, 1, .audit, .shared, 1⟩ .recording .direct

theorem build_commonPair :
    (build ⟨2, 2, 1, .audit, .shared, 1⟩ .recording .direct).value = .ok commonPair := rfl

/-- The confined task is handed the arguments of its child, which enters a call before it leaves its own. -/
theorem handed_latest_entry_interleaved :
    (commonPair.after interleaved).handed? ⟨7, 7⟩ = some (some (.forOpen 1 0)) ∧
      commonPair.HandsLatest interleaved ⟨7, 7⟩ :=
  ⟨by decide +kernel, handed_latest_entry build_commonPair rfl interleaved ⟨7, 7⟩⟩

end Engine

end Confinement
