import Confinement.Proofs.Engine.Lives
import Confinement.Proofs.Replay.Deliveries
import Mathlib.Data.Nat.Init

/-! What a kill comes to in a replay.

A killed task leaves at the end of the step that killed it, and only a creation brings a task back: until
then it has no record, and so no call of it is denied.
-/

set_option autoImplicit false

namespace Confinement

def TraceStep.Creates (tid : UInt32) (step : TraceStep) : Prop :=
  ∃ parent group, step = .kernel (.processCreate parent tid group)

namespace Replay

open Progress

variable {trace : Trace} {config : Config} {assignments : Assignments} {files : Files}
  {progress : Progress} {number : Nat} {step : TraceStep} {tid : UInt32}

namespace Reached

variable {engine : Engine} {operations : List Operation}

theorem absent_after (reached : Reached config assignments engine)
    (plain : ∀ operation ∈ operations, operation.isDescribed = true)
    (other : ∀ parent group, Operation.event (.processCreate parent tid group) ∉ operations)
    (absent : engine.processes.find? tid = none) :
    (engine.after operations).processes.find? tid = none := by
  induction operations generalizing engine with
  | nil => exact absent
  | cons operation rest ih =>
    obtain ⟨first, later⟩ := List.forall_mem_cons.mp plain
    have unborn : ∀ parent group, operation ≠ .event (.processCreate parent tid group) :=
      fun parent group same => other parent group (same ▸ List.mem_cons_self)
    exact ih (reached.next first) later (fun parent group member =>
      other parent group (List.mem_cons_of_mem _ member))
      (Engine.absent_next reached.restrained reached.sound.tasks unborn absent)

/-- A task that leaves in the course of operations, none of which creates it, has no record in the end. -/
theorem absent_after_exit (reached : Reached config assignments engine)
    (plain : ∀ operation ∈ operations, operation.isDescribed = true)
    (other : ∀ parent group, Operation.event (.processCreate parent tid group) ∉ operations)
    (leaves : Operation.event (.processExit tid) ∈ operations) :
    (engine.after operations).processes.find? tid = none := by
  obtain ⟨before, since, rfl⟩ := List.append_of_mem leaves
  obtain ⟨early, late⟩ := List.forall_mem_append.mp plain
  obtain ⟨first, later⟩ := List.forall_mem_cons.mp late
  have reached := reached.after early
  rw [List.append_cons, Engine.after_append, Engine.after_concat]
  refine (reached.next first).absent_after later (fun parent group member => ?_) ?_
  · exact other parent group (List.mem_append_right _ (List.mem_cons_of_mem _ member))
  · rw [Engine.find?_next_exit reached.sound, if_pos rfl]

end Reached

/-! ## One step -/

theorem pendingExits_acted (settled : Settled config assignments progress) (step : TraceStep) :
    (progress.acted step).reaped ≤ (progress.acted step).engine.reporter.killed.length ∧
      pendingExits (progress.acted step) =
        ((progress.engine.denials step.operations).flatMap fun denial =>
          denial.mode.targets denial.task).map fun task => .processExit task.tid := by
  have told := settled.told (progress.engine.acting_after settled.reached step)
  rw [← engine_acted] at told
  rw [pendingExits, reaped_acted, settled.reaped, told.killed, List.drop_left]
  exact ⟨by simp, rfl⟩

/-- Of all that a step does to the engine, only what it does by itself may create a task. -/
theorem not_mem_played (other : ¬ step.Creates tid) (parent group : UInt32) :
    Operation.event (.processCreate parent tid group) ∉
      step.operations ++ (pendingExits (progress.acted step)).map .event ++
        [.drain .enforcement, .drain .wouldHaveEnforced] := by
  intro member
  rcases List.mem_append.mp member with member | drains
  · rcases List.mem_append.mp member with acts | exits
    · cases step with
      | setMode mode => simp [TraceStep.operations] at acts
      | kernel event =>
        have same : KernelEvent.processCreate parent tid group = event := by
          simpa [TraceStep.operations, eventsOf] using acts
        exact other ⟨parent, group, by rw [same]⟩
      | openCall call => simp [TraceStep.operations, eventsOf] at acts
    · obtain ⟨event, inside, same⟩ := List.mem_map.mp exits
      obtain ⟨task, _, rfl⟩ := List.mem_map.mp inside
      cases same
  · simp at drains

theorem absent_played (reached : Reached config assignments progress.engine) (other : ¬ step.Creates tid)
    (absent : progress.engine.processes.find? tid = none) (number : Nat) :
    (progress.played number step).engine.processes.find? tid = none := by
  rw [engine_played]
  exact reached.absent_after (isDescribed_played progress step) (not_mem_played other) absent

/-- The caller of a call that is denied in a step leaves the call in it, and has a record before. -/
theorem present_of_denied (settled : Settled config assignments progress) {denial : Denial}
    (denied : denial ∈ progress.engine.denials step.operations) :
    step.leaver? = some denial.task ∧ progress.engine.processes.find? denial.task.tid ≠ none := by
  have acting := progress.engine.acting_after settled.reached step
  generalize progress.engine.denials step.operations = denials at acting denied
  generalize (progress.engine.after step.operations).reporter = reporter at acting
  cases acting with
  | quiet => cases denied
  | denied _ leaves _ present =>
    rw [List.mem_singleton.mp denied]
    exact ⟨leaves, by simp [present]⟩

theorem absent_of_enforced (settled : Settled config assignments progress) {denial : Denial}
    (denied : denial ∈ progress.engine.denials step.operations) (enforced : denial.mode = .enforcing)
    (number : Nat) :
    (progress.played number step).engine.processes.find? denial.task.tid = none := by
  have exits : KernelEvent.processExit denial.task.tid ∈ pendingExits (progress.acted step) := by
    rw [(pendingExits_acted settled step).2, List.mem_map]
    refine ⟨denial.task, List.mem_flatMap.mpr ⟨denial, denied, ?_⟩, rfl⟩
    rw [enforced]
    exact List.mem_singleton_self _
  have unborn : ¬ step.Creates denial.task.tid := by
    rintro ⟨parent, group, rfl⟩
    cases (present_of_denied settled denied).1
  rw [engine_played]
  refine settled.reached.absent_after_exit (isDescribed_played progress step) (not_mem_played unborn) ?_
  exact List.mem_append_left _ (List.mem_append_right _ (List.mem_map_of_mem exits))

/-! ## Whole replays -/

theorem stage_succ {engine : Engine} {steps : List TraceStep} (found : steps[number]? = some step) :
    (start engine).playedAll 0 (steps.take (number + 1)) =
      ((start engine).playedAll 0 (steps.take number)).played number step := by
  have bound := (List.getElem?_eq_some_iff.mp found).1
  rw [List.take_add_one, found, Option.toList_some, playedAll_concat, List.length_take,
    Nat.min_eq_left (Nat.le_of_lt bound), Nat.zero_add]

theorem absent_until_created {engine : Engine}
    (prepared : prepare trace config assignments files = .ok engine) {steps : List TraceStep}
    {first last : Nat} (within : first ≤ last) (bound : last ≤ steps.length)
    (unborn : ∀ between step, first ≤ between → between < last →
      steps[between]? = some step → ¬ step.Creates tid)
    (absent : ((start engine).playedAll 0 (steps.take first)).engine.processes.find? tid = none) :
    ((start engine).playedAll 0 (steps.take last)).engine.processes.find? tid = none := by
  induction last, within using Nat.le_induction with
  | base => exact absent
  | succ last within ih =>
    have before := ih (by omega) fun between step after early =>
      unborn between step after (by omega)
    have found := List.getElem?_eq_getElem (show last < steps.length by omega)
    have reached := (tells_playedAll prepared (steps.take last)).settled.reached
    rw [stage_succ found]
    exact absent_played reached (unborn last _ within (Nat.lt_succ_self last) found) before last

theorem denied_of_delivery {engine : Engine}
    (prepared : prepare trace config assignments files = .ok engine) {steps : List TraceStep}
    {delivery : Delivery}
    (member : delivery ∈ ((start engine).playedAll 0 steps).events) :
    ∃ step denial, steps[delivery.step]? = some step ∧
      denial ∈ ((start engine).playedAll 0 (steps.take delivery.step)).engine.denials
        step.operations ∧ delivery = denial.delivery delivery.step := by
  have tells := tells_playedAll prepared steps
  have found := List.getElem?_eq_getElem (tells.numbered delivery member)
  have kept : delivery ∈ ((start engine).playedAll 0 steps).events.filter fun other =>
      other.step = delivery.step := List.mem_filter.mpr ⟨member, by simp⟩
  rw [tells.complete delivery.step _ found] at kept
  obtain ⟨denial, denied, same⟩ := List.mem_map.mp kept
  exact ⟨_, denial, found, denied, same.symm⟩

/-- A killed task has no record from the end of its step on, until a step creates it. -/
theorem absent_after_kill {engine : Engine}
    (prepared : prepare trace config assignments files = .ok engine) {steps : List TraceStep}
    {delivery : Delivery} (member : delivery ∈ ((start engine).playedAll 0 steps).events)
    (enforced : delivery.channel = .enforcement) {later : Nat} (after : delivery.step < later)
    (bound : later ≤ steps.length)
    (unborn : ∀ between step, delivery.step < between → between < later →
      steps[between]? = some step → ¬ step.Creates delivery.event.tid) :
    ((start engine).playedAll 0 (steps.take later)).engine.processes.find? delivery.event.tid =
      none := by
  obtain ⟨step, denial, found, denied, same⟩ := denied_of_delivery prepared member
  have mode : denial.mode = .enforcing := by
    rw [same, Denial.delivery] at enforced
    change denial.channel = .enforcement at enforced
    rw [← denial.channelOf_mode] at enforced
    cases own : denial.mode with
    | enforcing => rfl
    | audit =>
      rw [own] at enforced
      cases enforced
  have tid : delivery.event.tid = denial.task.tid := by
    rw [same]
    rfl
  refine absent_until_created prepared after bound unborn ?_
  have settled := (tells_playedAll prepared (steps.take delivery.step)).settled
  rw [stage_succ found, tid]
  exact absent_of_enforced settled denied mode delivery.step

/-- The exits that are made up at the end of a step of a replay. -/
def exitsAt (trace : Trace) (config : Config) (assignments : Assignments) (files : Files)
    (number : Nat) : List KernelEvent :=
  match stage trace config assignments files number, trace.steps[number]? with
  | .ok progress, some step =>
    match (act progress step).value with
    | .ok acted => pendingExits acted
    | .error _ => []
  | _, _ => []

theorem exitsAt_eq {engine : Engine}
    (prepared : prepare trace config assignments files = .ok engine)
    (found : trace.steps[number]? = some step) :
    exitsAt trace config assignments files number =
      pendingExits (((start engine).playedAll 0 (trace.steps.take number)).acted step) := by
  rw [exitsAt, stage_eq prepared, found]
  dsimp only
  rw [value_act]

theorem exits_eq {engine : Engine}
    (prepared : prepare trace config assignments files = .ok engine) {count : Nat}
    (bound : count ≤ trace.steps.length) :
    (List.range count).flatMap (exitsAt trace config assignments files) =
      ((start engine).playedAll 0 (trace.steps.take count)).engine.reporter.killed.map fun task =>
        .processExit task.tid := by
  induction count with
  | zero =>
    change [] = engine.reporter.killed.map _
    rw [reporter_of_prepare prepared]
    rfl
  | succ count ih =>
    have found := List.getElem?_eq_getElem (show count < trace.steps.length by omega)
    have settled := (tells_playedAll prepared (trace.steps.take count)).settled
    rw [List.range_succ, List.flatMap_append, ih (by omega), List.flatMap_singleton,
      exitsAt_eq prepared found, (pendingExits_acted settled _).2, stage_succ found,
      (settled.played count _).2.killed, List.map_append]

/-- What the kills of a replay come to. -/
structure Conclusive (trace : Trace) (config : Config) (assignments : Assignments) (files : Files)
    (report : Report) : Prop where
  untracked : ∀ delivery ∈ report.events, delivery.channel = .enforcement →
    ∀ later, delivery.step < later → later ≤ trace.steps.length →
      (∀ between step, delivery.step < between → between < later →
        trace.steps[between]? = some step → ¬ step.Creates delivery.event.tid) →
      ∃ progress, stage trace config assignments files later = .ok progress ∧
        progress.engine.processes.find? delivery.event.tid = none
  silent : ∀ delivery ∈ report.events, delivery.channel = .enforcement →
    ∀ other ∈ report.events, other.event.tid = delivery.event.tid → delivery.step < other.step →
      ∃ between step, delivery.step < between ∧ between < other.step ∧
        trace.steps[between]? = some step ∧ step.Creates delivery.event.tid
  reaped : ∀ number step progress, trace.steps[number]? = some step →
    stage trace config assignments files number = .ok progress →
      ∃ acted later new, (act progress step).value = .ok acted ∧
        (play progress number step).value = .ok later ∧
        acted.reaped ≤ acted.engine.reporter.killed.length ∧
        later.engine.reporter.killed = progress.engine.reporter.killed ++ new ∧
        pendingExits acted = new.map fun task => .processExit task.tid
  exits : (List.range trace.steps.length).flatMap (exitsAt trace config assignments files) =
    report.killed.map fun task => .processExit task.tid

/-- A kill in a replay is final: its task stays away until it is created anew, and no call of it is denied
before. Each kill is followed by one exit at the end of its step. -/
theorem conclusive_of_run {report : Report}
    (succeeded : (run trace config assignments files).value = .ok report) :
    Conclusive trace config assignments files report := by
  obtain ⟨engine, prepared, rfl⟩ := exists_prepared succeeded
  constructor
  case untracked =>
    intro delivery member enforced later after bound unborn
    exact ⟨_, stage_eq prepared later,
      absent_after_kill prepared member enforced after bound unborn⟩
  case silent =>
    intro delivery member enforced other present same after
    obtain ⟨step, denial, found, denied, own⟩ := denied_of_delivery prepared present
    by_contra unborn
    have bound := (List.getElem?_eq_some_iff.mp found).1
    have absent := absent_after_kill prepared member enforced after (Nat.le_of_lt bound)
      fun between step first second inside creates =>
        unborn ⟨between, step, first, second, inside, creates⟩
    have settled := (tells_playedAll prepared (trace.steps.take other.step)).settled
    have tracked := (present_of_denied settled denied).2
    have tid : other.event.tid = denial.task.tid := by
      rw [own]
      rfl
    rw [← tid, same] at tracked
    exact tracked absent
  case reaped =>
    intro number step progress found staged
    rw [stage_eq prepared, Except.ok.injEq] at staged
    subst staged
    have settled := (tells_playedAll prepared (trace.steps.take number)).settled
    obtain ⟨inside, exits⟩ := pendingExits_acted settled step
    exact ⟨_, _, _, value_act _ step, value_play _ number step, inside,
      (settled.played number step).2.killed, exits⟩
  case exits =>
    rw [exits_eq prepared (Nat.le_refl _), List.take_length]
    rfl

/-- The third denial of that trace is of a task that was created anew after the first had been killed. -/
theorem conclusive_relapse :
    (run relapse ⟨2, 2, 1, .audit, .perThread, 1⟩ .direct (.ofListing [] [])).value =
        .ok relapseReport ∧
      Conclusive relapse ⟨2, 2, 1, .audit, .perThread, 1⟩ .direct (.ofListing [] [])
        relapseReport :=
  ⟨run_relapse, conclusive_of_run run_relapse⟩

end Replay

end Confinement
