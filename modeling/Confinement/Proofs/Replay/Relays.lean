import Confinement.Proofs.Engine.Relays
import Confinement.Proofs.Replay.Correspondence

/-! Why it does not matter where captured arguments wait, as long as open calls do not overlap.

In a replay each open call goes from its entry to its exit within one step, and killed tasks leave only after
it. So unless a step is one end of a call by itself, nothing comes between the two ends.
-/

set_option autoImplicit false

namespace Confinement

def TraceStep.isHalf : TraceStep → Bool
  | .kernel (.openEntry ..) | .kernel (.openExit _) => true
  | _ => false

namespace Replay

theorem keeps_relays {operations : List Operation} (brackets : bracketed none operations = true) :
    Keeps Engine.Relays operations :=
  fun _ _ relays => relays.run brackets nofun

theorem bracketed_operations {step : TraceStep} (whole : step.isHalf = false) :
    bracketed none step.operations = true := by
  cases step with
  | setMode mode => rfl
  | openCall call =>
    have own : bracketed none (TraceStep.openCall call).operations =
      (decide (some call.task.tid = some call.task.tid) && true) := rfl
    rw [own, decide_eq_true rfl]
    rfl
  | kernel event =>
    cases event with
    | openEntry => cases whole
    | openExit => cases whole
    | _ => rfl

theorem bracketed_exits (tids : List UInt32) :
    bracketed none (tids.map fun tid => .event (.processExit tid)) = true := by
  induction tids with
  | nil => rfl
  | cons tid rest ih => exact ih

theorem sustains_relays {steps : List TraceStep} (whole : ∀ step ∈ steps, step.isHalf = false) :
    Sustains Engine.Relays steps where
  reporter _ _ relays := relays.same.reporter
  step step member := keeps_relays (bracketed_operations (whole step member))
  exits tids := keeps_relays (bracketed_exits tids)
  drain _ := keeps_relays rfl

theorem run_relays {trace : Trace} (whole : ∀ step ∈ trace.steps, step.isHalf = false)
    (config : Config) (assignments : Assignments) (openArgs : UInt32 → UInt64) (files : Files) :
    (run trace (config.withSlot .shared) { assignments with openArgs } files).value =
      (run trace (config.withSlot .perThread) assignments files).value := by
  have prepared : Matched Engine.Relays
      (prepare trace (config.withSlot .perThread) assignments files)
      (prepare trace (config.withSlot .shared) { assignments with openArgs } files) := by
    unfold prepare
    cases valid : config.validate with
    | error fault =>
      have invalid : ∀ slot, (config.withSlot slot).validate = .error fault := fun _ => valid
      rw [Engine.build_of_invalid (invalid _), Engine.build_of_invalid (invalid _)]
      exact .failed
    | ok _ =>
      have others : ∀ slot, (config.withSlot slot).validate = .ok () := fun _ => valid
      rw [Engine.build_of_valid (others _), Engine.build_of_valid (others _)]
      exact matched_installAll (Engine.relays_initial valid .recording assignments openArgs)
        fun _ _ _ _ => keeps_relays rfl
  rw [value_run, value_run]
  generalize prepare trace (config.withSlot .perThread) assignments files = result at prepared
  generalize prepare trace (config.withSlot .shared) _ files = other at prepared
  cases prepared with
  | failed => rfl
  | @ready first second relays =>
    have played := (Progress.Beside.start relays).playedAll (sustains_relays whole) 0
    have same := played.engine.same
    exact congrArg Except.ok (played.report same.reporter same.stats trace)

/-- Where open calls do not overlap, an engine with one place for captured arguments gives the same as one
with a place for each thread: it answers each operation alike and keeps the same records, and a replay in
which each call is one step comes to the same. -/
theorem same_of_bracketed (config : Config) (assignments : Assignments) (openArgs : UInt32 → UInt64) :
    (∀ terminator first,
      (Engine.build (config.withSlot .perThread) terminator assignments).value = .ok first →
      ∃ second, (Engine.build (config.withSlot .shared) terminator
          { assignments with openArgs }).value = .ok second ∧
        ∀ operations, bracketed none operations = true →
          (second.run operations).value.2 = (first.run operations).value.2 ∧
            (first.after operations).Same (second.after operations)) ∧
    ∀ (trace : Trace) (files : Files), (∀ step ∈ trace.steps, step.isHalf = false) →
      (run trace (config.withSlot .shared) { assignments with openArgs } files).value =
        (run trace (config.withSlot .perThread) assignments files).value := by
  refine ⟨fun terminator first built => ?_, fun trace files whole =>
    run_relays whole config assignments openArgs files⟩
  cases valid : config.validate with
  | error fault =>
    have invalid : (config.withSlot .perThread).validate = .error fault := valid
    rw [Engine.build_of_invalid invalid] at built
    cases built
  | ok _ =>
    have others : (config.withSlot .shared).validate = .ok () := valid
    obtain rfl := Engine.eq_initial_of_build built
    refine ⟨_, Engine.build_of_valid others terminator _, fun operations brackets => ?_⟩
    have relays := Engine.relays_initial valid terminator assignments openArgs
    obtain ⟨later, answers⟩ := relays.run brackets nofun
    exact ⟨answers, later.same⟩

/-- A task may read and no more, and reads while the arguments of another task that writes still wait. -/
def waitingRun : List Operation :=
  [.install (Executable.profileKey ⟨0, 5⟩) 0 (.described (.access (.new .onlyRead))),
    .event (.processCreate 0 7 7), .event (.processCreate 0 9 9), .event (.programLoad 7 ⟨0, 5⟩),
    .event (.openEntry ⟨9, 9⟩ (.forOpen 1 0)), .event (.openEntry ⟨7, 7⟩ (.forOpen 0 0)),
    .event (.openExit ⟨7, 7⟩)]

def strangers : Trace where
  profiles := [⟨none, some 0, some 5, none, 0, .denyAll⟩]
  steps :=
    [.kernel (.processCreate 0 7 7), .kernel (.programLoad 7 ⟨0, 5⟩), .openCall ⟨7, none, 1, 0⟩,
      .openCall ⟨9, none, 0, 0⟩, .openCall ⟨7, none, 1, 0⟩]

/-- The two engines agree, though in the end one of them keeps the arguments that wait and the other does
not. -/
theorem same_of_bracketed_waitingRun :
    let config : Config := ⟨2, 2, 1, .enforcing, .perThread, 1⟩
    let assignments := Assignments.direct
    let first := Engine.initial config .recording assignments
    let second := Engine.initial (config.withSlot .shared) .recording assignments
    bracketed none waitingRun = true ∧
      (second.run waitingRun).value.2 = (first.run waitingRun).value.2 ∧
      (first.after waitingRun).Same (second.after waitingRun) ∧
      (first.after waitingRun).slot.waiting? 9 = some (.forOpen 1 0) ∧
      (second.after waitingRun).slot.waiting? 9 = some (.forOpen 0 0) ∧
      (∀ step ∈ strangers.steps, step.isHalf = false) ∧
      (run strangers config assignments (.ofListing [] [])).value.map Report.killed = .ok [⟨7, 7⟩] ∧
      (run strangers (config.withSlot .shared) assignments (.ofListing [] [])).value =
        (run strangers config assignments (.ofListing [] [])).value := by
  intro config assignments first second
  have brackets : bracketed none waitingRun = true := by decide +kernel
  have whole : ∀ step ∈ strangers.steps, step.isHalf = false := by decide +kernel
  obtain ⟨engines, replays⟩ := same_of_bracketed config assignments assignments.openArgs
  obtain ⟨other, built, alike⟩ := engines .recording first rfl
  obtain rfl : second = other := (Engine.eq_initial_of_build built).symm
  obtain ⟨answers, same⟩ := alike waitingRun brackets
  exact ⟨brackets, answers, same, by decide +kernel, by decide +kernel, whole, by decide +kernel,
    replays strangers (.ofListing [] []) whole⟩

-- Where another task enters in between, only the place for each thread tells the two calls apart.
example :
    let operations := waitingRun.insertIdx 6 (.event (.openEntry ⟨9, 9⟩ (.forOpen 1 0)))
    let config : Config := ⟨2, 2, 1, .audit, .perThread, 1⟩
    let last (slot : SlotMode) :=
      ((Engine.initial (config.withSlot slot) .recording .direct).run operations).value.2.getLast?
    last .perThread = some (.outcome (.opened (.dispatched 0 .allowed))) ∧
      last .shared = some (.outcome (.opened (.dispatched 0 (.denied .audit)))) :=
  ⟨rfl, rfl⟩

end Replay

end Confinement
