import Confinement.Proofs.Replay.Deliveries

/-! An open call as one step, or as its entry and its exit in two.

The two differ in that the killed tasks leave and the channels are drained once more, between entry and
exit. But an entry kills nobody and reports nothing, and before it there is nothing left over. So only the
numbers of the later steps change.
-/

set_option autoImplicit false

namespace Confinement

/-- The entry and the exit of an open call, and any other step as it is. -/
def TraceStep.halves : TraceStep → List TraceStep
  | .openCall call =>
    let task := ⟨call.tid, call.tgid.getD call.tid⟩
    [.kernel (.openEntry task (.forOpen call.flags call.mode)), .kernel (.openExit task)]
  | step => [step]

def TraceStep.lastHalf : TraceStep → TraceStep
  | .openCall call => .kernel (.openExit ⟨call.tid, call.tgid.getD call.tid⟩)
  | step => step

namespace Replay

open Progress

variable {trace : Trace} {config : Config} {assignments : Assignments} {files : Files}
  {progress : Progress} {chosen : Nat → Bool} {steps : List TraceStep} {number : Nat}

def parts (chosen : Nat → Bool) (steps : List TraceStep) : List (List TraceStep) :=
  steps.mapIdx fun number step => if chosen number then step.halves else [step]

def parted (chosen : Nat → Bool) (steps : List TraceStep) : List TraceStep :=
  (parts chosen steps).flatten

def place (chosen : Nat → Bool) (steps : List TraceStep) (number : Nat) : Nat :=
  ((parts chosen steps).take (number + 1)).flatten.length - 1

def Delivery.moved (place : Nat → Nat) (delivery : Delivery) : Delivery :=
  { delivery with step := place delivery.step }

def Report.moved (place : Nat → Nat) (steps : Nat) (report : Report) : Report :=
  { report with
    events := report.events.map (Delivery.moved place)
    summary := { report.summary with steps } }

def Progress.moved (place : Nat → Nat) (progress : Progress) : Progress :=
  { progress with events := progress.events.map (Delivery.moved place) }

/-! ## Numbers -/

theorem parts_concat (chosen : Nat → Bool) (steps : List TraceStep) (step : TraceStep) :
    parts chosen (steps ++ [step]) =
      parts chosen steps ++ [if chosen steps.length then step.halves else [step]] :=
  List.mapIdx_concat

theorem length_parts (chosen : Nat → Bool) (steps : List TraceStep) :
    (parts chosen steps).length = steps.length :=
  List.length_mapIdx

theorem parted_concat (chosen : Nat → Bool) (steps : List TraceStep) (step : TraceStep) :
    parted chosen (steps ++ [step]) =
      parted chosen steps ++ if chosen steps.length then step.halves else [step] := by
  rw [parted, parts_concat, List.flatten_append, List.flatten_singleton, parted]

theorem place_concat_of_lt (chosen : Nat → Bool) (step : TraceStep) (early : number < steps.length) :
    place chosen (steps ++ [step]) number = place chosen steps number := by
  have inside : number + 1 ≤ (parts chosen steps).length := by
    rw [length_parts]
    exact early
  rw [place, parts_concat, List.take_append_of_le_length inside, place]

theorem place_concat (chosen : Nat → Bool) (steps : List TraceStep) (step : TraceStep) :
    place chosen (steps ++ [step]) steps.length = (parted chosen (steps ++ [step])).length - 1 := by
  have all : (parts chosen (steps ++ [step])).length ≤ steps.length + 1 :=
    Nat.le_of_eq ((length_parts chosen _).trans List.length_append)
  rw [place, List.take_of_length_le all, parted]

/-- What comes last in place of a step is the step itself, or the exit of the call. -/
theorem parted_place (chosen : Nat → Bool) {step : TraceStep} (found : steps[number]? = some step) :
    (parted chosen steps)[place chosen steps number]? =
      some (if chosen number then step.lastHalf else step) := by
  induction steps using List.reverseRecOn with
  | nil => cases found
  | append_singleton earlier last ih =>
    by_cases same : number = earlier.length
    · subst same
      rw [List.getElem?_concat_length, Option.some.injEq] at found
      rw [place_concat, ← List.getLast?_eq_getElem?, parted_concat, found]
      cases chosen earlier.length <;> cases step <;> simp [TraceStep.halves, TraceStep.lastHalf]
    · have bound := (List.getElem?_eq_some_iff.mp found).1
      rw [List.length_append, List.length_singleton] at bound
      have early : number < earlier.length := by omega
      rw [List.getElem?_append_left early] at found
      have there := ih found
      rw [place_concat_of_lt chosen last early, parted_concat,
        List.getElem?_append_left (List.getElem?_eq_some_iff.mp there).1, there]

/-! ## Steps -/

theorem collect_of_empty {channel : Channel} (empty : progress.engine.bus.queue channel = .empty)
    (number : Nat) : collect progress number channel = progress := by
  obtain ⟨engine, reaped, capacityErrors, events⟩ := progress
  have same : engine.bus.drain channel = (engine.bus, []) := by
    rw [Bus.drain, empty]
    refine congrArg (Prod.mk · []) (?_ : engine.bus.setQueue channel .empty = engine.bus)
    rw [← empty]
    cases channel <;> rfl
  rw [collect, Engine.drain, same]
  exact congrArg (Progress.mk engine reaped capacityErrors) (List.append_nil events)

theorem Settled.moved (settled : Settled config assignments progress) (place : Nat → Nat) :
    Settled config assignments (progress.moved place) :=
  ⟨settled.reached, settled.waiting, settled.room, settled.reaped⟩

theorem Settled.played_entry (settled : Settled config assignments progress) (number : Nat)
    (task : Task) (flags : OpenFlags) :
    progress.played number (.kernel (.openEntry task flags)) =
      progress.fed (.openEntry task flags) := by
  have quiet : (progress.fed (.openEntry task flags)).engine.reporter = progress.engine.reporter :=
    progress.engine.reporter_enterOpen task flags
  have waiting : ∀ channel, (progress.fed (.openEntry task flags)).engine.bus.queue channel = .empty := by
    intro channel
    rw [Engine.bus, quiet]
    exact settled.waiting channel
  have exits : pendingExits (progress.fed (.openEntry task flags)) = [] := by
    rw [pendingExits, quiet]
    change (progress.engine.reporter.killed.drop progress.reaped).map _ = []
    rw [settled.reaped, List.drop_length, List.map_nil]
  have acted : progress.acted (.kernel (.openEntry task flags)) =
    progress.fed (.openEntry task flags) := rfl
  have cleared : (progress.fed (.openEntry task flags)).cleared =
      progress.fed (.openEntry task flags) := by
    rw [Progress.cleared, exits, quiet, ← settled.reaped]
    rfl
  rw [Progress.played, acted, cleared, collect_of_empty (waiting _), collect_of_empty (waiting _)]

/-- To play the two ends of a call is to play the call, with the number of its exit. -/
theorem Settled.played_halves (settled : Settled config assignments progress) (number : Nat)
    (call : OpenCall) :
    (progress.played number (.kernel (.openEntry call.task call.openFlags))).played (number + 1)
        (.kernel (.openExit call.task)) =
      progress.played (number + 1) (.openCall call) := by
  have acted : (progress.fed (.openEntry call.task call.openFlags)).acted (.kernel (.openExit call.task)) =
      progress.acted (.openCall call) := by
    simp only [Progress.acted, eventsOf, List.foldl_cons, List.foldl_nil]
  rw [settled.played_entry, Progress.played, acted, Progress.played]

theorem fedAll_moved (progress : Progress) (place : Nat → Nat) (events : List KernelEvent) :
    events.foldl fed (progress.moved place) = (events.foldl fed progress).moved place :=
  List.foldl_hom (Progress.moved place) fun _ _ => rfl

theorem played_moved (progress : Progress) (place : Nat → Nat) (number : Nat) (step : TraceStep) :
    (progress.moved place).played (place number) step =
      (progress.played number step).moved place := by
  have acted : (progress.moved place).acted step = (progress.acted step).moved place := by
    cases step with
    | setMode mode => rfl
    | kernel event => exact fedAll_moved progress place [event]
    | openCall call => exact fedAll_moved progress place (eventsOf (.openCall call))
  have cleared : ((progress.acted step).moved place).cleared =
      ((progress.acted step).cleared).moved place := by
    have exits : pendingExits ((progress.acted step).moved place) =
      pendingExits (progress.acted step) := rfl
    rw [Progress.cleared, exits, fedAll_moved]
    rfl
  rw [Progress.played, acted, cleared, Progress.played]
  generalize (progress.acted step).cleared = result
  simp [collect, Progress.moved, Delivery.moved, Function.comp_def]

/-! ## Replays -/

theorem moved_congr {place other : Nat → Nat}
    (same : ∀ delivery ∈ progress.events, place delivery.step = other delivery.step) :
    progress.moved place = progress.moved other :=
  congrArg (fun events => { progress with events }) (List.map_congr_left fun delivery member =>
    congrArg (fun step => { delivery with step }) (same delivery member))

/-- After the steps with some calls in two, all is as after the steps themselves, but for the numbers. -/
theorem playedAll_parted {engine : Engine}
    (prepared : prepare trace config assignments files = .ok engine) (chosen : Nat → Bool)
    (steps : List TraceStep) :
    (start engine).playedAll 0 (parted chosen steps) =
      ((start engine).playedAll 0 steps).moved (place chosen steps) := by
  induction steps using List.reverseRecOn with
  | nil => rfl
  | append_singleton earlier step ih =>
    have tells := tells_playedAll prepared earlier
    have numbered := fun delivery (member : delivery ∈ ((start engine).playedAll 0 earlier).events) =>
      (place_concat_of_lt chosen step (tells.numbered delivery member)).symm
    have last := place_concat chosen earlier step
    -- A step at the end does not change the numbers of those before it.
    rw [moved_congr numbered] at ih
    rw [playedAll_concat, Nat.zero_add, ← played_moved, last]
    have settled := tells.settled.moved (place chosen (earlier ++ [step]))
    generalize ((start engine).playedAll 0 earlier).moved _ = progress at ih settled
    rw [parted_concat, List.length_append]
    -- Any step but a parted call stands for itself.
    have whole : (start engine).playedAll 0 (parted chosen earlier ++ [step]) =
        progress.played ((parted chosen earlier).length + 1 - 1) step := by
      rw [playedAll_concat, ih, Nat.zero_add, Nat.add_sub_cancel]
    cases chosen earlier.length with
    | false => exact whole
    | true =>
      cases step with
      | openCall call =>
        have halves : (TraceStep.openCall call).halves =
          [.kernel (.openEntry call.task call.openFlags), .kernel (.openExit call.task)] := rfl
        rw [if_pos rfl, halves, List.append_cons, playedAll_concat, playedAll_concat, ih, Nat.zero_add,
          Nat.zero_add, List.length_append]
        exact settled.played_halves (parted chosen earlier).length call
      | kernel event => exact whole
      | setMode mode => exact whole

/-- An open call in one step is exactly its entry and its exit in two. Where any open calls of a trace are
parted, a replay fails for the same reason or comes to the same report, but for the numbers of the steps: what
the call as a whole reported is reported by its exit. -/
theorem run_parted (trace : Trace) (config : Config) (assignments : Assignments) (files : Files)
    (chosen : Nat → Bool) :
    (run { trace with steps := parted chosen trace.steps } config assignments files).value =
        (run trace config assignments files).value.map
          (Report.moved (place chosen trace.steps) (parted chosen trace.steps).length) ∧
      ∀ number step, trace.steps[number]? = some step →
        (parted chosen trace.steps)[place chosen trace.steps number]? =
          some (if chosen number then step.lastHalf else step) := by
  refine ⟨?_, fun number step found => parted_place chosen found⟩
  have profiles : prepare { trace with steps := parted chosen trace.steps } config assignments files =
    prepare trace config assignments files := rfl
  rw [value_run, value_run, profiles]
  cases prepared : prepare trace config assignments files with
  | error error => rfl
  | ok engine =>
    dsimp only [Except.map]
    rw [playedAll_parted prepared]
    refine congrArg Except.ok ?_
    rw [Progress.report, summarize]
    simp only [Progress.moved, List.length_map]
    rfl

/-- A task that may only read opens a file to read, then one to write, and, once its mode is to enforce, that
one again. -/
def errands : Trace where
  profiles := [⟨none, some 0, some 5, none, 0, .access ⟨.onlyRead, .none, .none⟩⟩]
  steps :=
    [.kernel (.processCreate 0 7 7), .kernel (.programLoad 7 ⟨0, 5⟩), .openCall ⟨7, some 9, 0, 0⟩,
      .openCall ⟨7, some 9, 1, 0⟩, .setMode .enforcing, .openCall ⟨7, none, 1, 0⟩]

/-- The first two calls are parted. The flags decide on each, and the group of its caller is the one that the
call names. -/
theorem run_parted_errands :
    let config : Config := ⟨2, 2, 1, .audit, .perThread, 1⟩
    let steps := parted (· ∈ [2, 3]) errands.steps
    (run { errands with steps } config .direct (.ofListing [] [])).value =
        .ok
          { events :=
              [⟨.wouldHaveEnforced, 5, ⟨7, 7, Executable.profileKey ⟨0, 5⟩⟩⟩,
                ⟨.enforcement, 7, ⟨7, 7, Executable.profileKey ⟨0, 5⟩⟩⟩]
            killed := [⟨7, 7⟩]
            summary := ⟨8, 2, 1, 0, ⟨0, 1, 1, 0, 0, 2, 0, 0⟩⟩ } ∧
      steps.take 6 =
        [.kernel (.processCreate 0 7 7), .kernel (.programLoad 7 ⟨0, 5⟩),
          .kernel (.openEntry ⟨7, 9⟩ (.forOpen 0 0)), .kernel (.openExit ⟨7, 9⟩),
          .kernel (.openEntry ⟨7, 9⟩ (.forOpen 1 0)), .kernel (.openExit ⟨7, 9⟩)] ∧
      steps[5]? = some (.kernel (.openExit ⟨7, 9⟩)) ∧
      steps[7]? = some (.openCall ⟨7, none, 1, 0⟩) := by
  intro config steps
  obtain ⟨same, places⟩ := run_parted errands config .direct (.ofListing [] []) (· ∈ [2, 3])
  refine ⟨same.trans ?_, rfl, places 3 (.openCall ⟨7, some 9, 1, 0⟩) rfl,
    places 5 (.openCall ⟨7, none, 1, 0⟩) rfl⟩
  decide +kernel

end Replay

end Confinement
