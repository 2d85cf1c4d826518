import Confinement.Proofs.Replay.Steps
import Mathlib.Data.List.Perm.Subperm

/-! What a replay reports.

Between two steps all channels are empty and all killed tasks have left. So a step finds room for the one
denial that it may come to, and the drains at its end deliver that denial and nothing else.
-/

set_option autoImplicit false

namespace Confinement

def TraceStep.leaver? : TraceStep → Option Task
  | .kernel (.openExit task) => some task
  | .openCall call => some ⟨call.tid, call.tgid.getD call.tid⟩
  | _ => none

def TraceStep.mode? : TraceStep → Option Mode
  | .setMode mode => some mode
  | _ => none

namespace Engine

variable {engine : Engine} {published : ProfileKey → Prop}

theorem reporter_next_event (consistent : engine.Consistent published)
    (described : engine.dispatch.Each (·.isDescribed)) (event : KernelEvent) :
    (engine.next (.event event)).reporter =
      ((engine.denial? (.event event)).toList.map Denial.report).foldl Reporter.enforced
        engine.reporter := by
  have reporting := engine.reporting_next (.event event)
  generalize (engine.next (.event event)).reporter = later at reporting ⊢
  cases reporting with
  | heard => rw [reports_eq consistent described]

theorem eq_openExit_of_denial? {event : KernelEvent} {denial : Denial}
    (denied : engine.denial? (.event event) = some denial) : event = .openExit denial.task := by
  have heard := engine.heard_next (.event event)
  generalize engine.reports (.event event) = reports at heard
  rw [denied] at heard
  cases heard
  rfl

inductive Acting (engine : Engine) (step : TraceStep) : List Denial → Reporter → Prop where
  | quiet : Acting engine step [] { engine.reporter with mode := step.mode?.getD engine.mode }
  | denied {denial : Denial} {record : ProcessState} (unset : step.mode? = none)
      (leaves : step.leaver? = some denial.task) (mode : denial.mode = engine.mode)
      (present : engine.processes.find? denial.task.tid = some record) :
      Acting engine step [denial] (engine.reporter.enforced denial.report)

theorem Acting.denials_cases {step : TraceStep} {denials : List Denial} {reporter : Reporter}
    (acting : engine.Acting step denials reporter) :
    denials = [] ∨ ∃ denial, denials = [denial] ∧ step.leaver? = some denial.task ∧
      denial.mode = engine.mode := by
  cases acting with
  | quiet => exact .inl rfl
  | denied _ leaves mode _ => exact .inr ⟨_, rfl, leaves, mode⟩

theorem acting_event (consistent : engine.Consistent published)
    (described : engine.dispatch.Each (·.isDescribed)) (event : KernelEvent) :
    engine.Acting (.kernel event) (engine.denial? (.event event)).toList
      (engine.next (.event event)).reporter := by
  rw [reporter_next_event consistent described]
  cases denied : engine.denial? (.event event) with
  | none => exact .quiet
  | some denial =>
    have vouches := vouches_of_denial? consistent denied
    obtain ⟨record, present, _⟩ := vouches.caller
    cases eq_openExit_of_denial? denied
    exact .denied rfl rfl vouches.mode present

theorem Acting.of_entered {call : OpenCall} {denials : List Denial} {reporter : Reporter}
    (bounded : engine.processes.Bounded)
    (acting : (engine.next (.event (.openEntry call.task call.openFlags))).Acting
      (.kernel (.openExit call.task)) denials reporter) :
    engine.Acting (.openCall call) denials reporter := by
  have same : (engine.next (.event (.openEntry call.task call.openFlags))).reporter =
      engine.reporter := engine.reporter_enterOpen call.task call.openFlags
  have looked : (engine.next (.event (.openEntry call.task call.openFlags))).processes =
      (engine.processes.lookup call.task.tid).1 :=
    engine.processes_enterOpen call.task call.openFlags
  generalize engine.next (.event (.openEntry call.task call.openFlags)) = entered at *
  cases acting with
  | quiet =>
    rw [Engine.mode, same]
    exact .quiet
  | denied _ leaves mode present =>
    rw [looked, bounded.find?_lookup] at present
    rw [Engine.mode, same] at mode
    rw [same]
    exact .denied rfl leaves mode present

theorem acting_after {config : Config} {assignments : Assignments}
    (reached : Replay.Reached config assignments engine) (step : TraceStep) :
    engine.Acting step (engine.denials step.operations)
      (engine.after step.operations).reporter := by
  cases step with
  | setMode mode => exact .quiet
  | kernel event =>
    obtain ⟨_, consistent⟩ := reached.consistent
    have acting := acting_event consistent reached.described event
    rwa [← denials_singleton] at acting
  | openCall call =>
    have plain : (Operation.event (.openEntry call.task call.openFlags)).isDescribed = true := rfl
    have entered := reached.next plain
    obtain ⟨_, consistent⟩ := entered.consistent
    have acting := acting_event consistent entered.described (.openExit call.task)
    have split : (TraceStep.openCall call).operations =
      [.event (.openEntry call.task call.openFlags)] ++ [.event (.openExit call.task)] := rfl
    have silent : engine.denial? (.event (.openEntry call.task call.openFlags)) = none := rfl
    rw [split, denials_concat, denials_singleton, silent, after_concat, after_singleton,
      Option.toList_none, List.nil_append]
    exact .of_entered reached.sound.tasks acting

end Engine

def Denial.delivery (number : Nat) (denial : Denial) : Replay.Delivery :=
  ⟨denial.channel, number, denial.event⟩

namespace Replay

open Progress

variable {trace : Trace} {config : Config} {assignments : Assignments} {files : Files}
  {progress : Progress} {number : Nat} {step : TraceStep}

/-! ## One step -/

structure Settled (config : Config) (assignments : Assignments) (progress : Progress) : Prop where
  reached : Reached config assignments progress.engine
  waiting : ∀ channel, progress.engine.bus.queue channel = .empty
  room : 0 < progress.engine.bus.capacity
  reaped : progress.reaped = progress.engine.reporter.killed.length

structure Plays (number : Nat) (step : TraceStep) (before after : Progress) : Prop where
  events : after.events =
    before.events ++ (before.engine.denials step.operations).map (Denial.delivery number)
  counted : after.engine.reporter.denials =
    before.engine.reporter.denials + .ofNat (before.engine.denials step.operations).length
  killed : after.engine.reporter.killed = before.engine.reporter.killed ++
    (before.engine.denials step.operations).flatMap fun denial => denial.mode.targets denial.task
  mode : after.engine.mode = step.mode?.getD before.engine.mode

theorem reporter_exits (engine : Engine) (tasks : List Task) :
    (engine.after ((tasks.map fun task => KernelEvent.processExit task.tid).map .event)).reporter =
      engine.reporter := by
  induction tasks generalizing engine with
  | nil => rfl
  | cons task rest ih => exact ih (engine.next (.event (.processExit task.tid)))

theorem reporter_cleared (progress : Progress) :
    progress.cleared.engine.reporter = progress.engine.reporter := by
  rw [engine_cleared]
  exact reporter_exits progress.engine _

theorem capacity_collect (progress : Progress) (number : Nat) (channel : Channel) :
    (collect progress number channel).engine.bus.capacity = progress.engine.bus.capacity :=
  progress.engine.bus.capacity_drain channel

/-- The two drains at the end of a step take all that waits on a channel of denials. -/
theorem collected {mode : Mode} {pending : List Event}
    (only : ∀ channel, progress.engine.bus.queue channel =
      if channel = Reporter.channelOf mode then ⟨pending, 0⟩ else .empty) (number : Nat) :
    (collect (collect progress number .enforcement) number .wouldHaveEnforced).events =
        progress.events ++ pending.map (Delivery.mk (Reporter.channelOf mode) number) ∧
      ∀ channel, (collect (collect progress number .enforcement) number
        .wouldHaveEnforced).engine.bus.queue channel = .empty := by
  have first := progress.engine.bus.queue_drain .enforcement
  have second := (progress.engine.bus.drain .enforcement).1.queue_drain .wouldHaveEnforced
  constructor
  · change progress.events ++ (progress.engine.bus.queue .enforcement).pending.map _ ++
      ((progress.engine.bus.drain .enforcement).1.queue .wouldHaveEnforced).pending.map _ = _
    rw [first, only, only]
    cases mode <;> simp [Reporter.channelOf, Queue.empty]
  · intro channel
    refine (second channel).trans ?_
    rw [first, first, only, only, only]
    cases mode <;> cases channel <;> rfl

structure Told (step : TraceStep) (denials : List Denial) (before after : Reporter) : Prop where
  mode : after.mode = step.mode?.getD before.mode
  capacity : after.bus.capacity = before.bus.capacity
  counted : after.denials = before.denials + .ofNat denials.length
  killed : after.killed =
    before.killed ++ denials.flatMap fun denial => denial.mode.targets denial.task
  queues : ∃ mode, (∀ denial ∈ denials, denial.mode = mode) ∧
    ∀ channel, after.bus.queue channel =
      if channel = Reporter.channelOf mode then ⟨denials.map Denial.event, 0⟩ else .empty

theorem Settled.told (settled : Settled config assignments progress) {denials : List Denial}
    {reporter : Reporter} (acting : progress.engine.Acting step denials reporter) :
    Told step denials progress.engine.reporter reporter := by
  have waiting : ∀ channel, progress.engine.reporter.bus.queue channel = .empty := settled.waiting
  cases acting with
  | quiet =>
    refine ⟨rfl, rfl, (UInt64.add_zero _).symm, (List.append_nil _).symm, .audit, nofun, ?_⟩
    intro channel
    rw [waiting]
    exact (ite_self _).symm
  | @denied denial record unset _ mode _ =>
    refine ⟨?_, ?_, rfl, ?_, denial.mode, by simp, ?_⟩
    · rw [Reporter.mode_enforced, unset, Option.getD_none]
    · rw [Reporter.bus_enforced, Bus.capacity_submit]
    · rw [Reporter.killed_enforced settled.reached.recording, List.flatMap_singleton, mode]
      rfl
    · intro channel
      have room : (Queue.empty.pending).length < progress.engine.reporter.bus.capacity := settled.room
      rw [Reporter.queue_enforced, waiting, Queue.offered, if_pos room, mode]
      rfl

theorem Settled.played (settled : Settled config assignments progress) (number : Nat)
    (step : TraceStep) :
    Settled config assignments (progress.played number step) ∧
      Plays number step progress (progress.played number step) := by
  have told := settled.told (progress.engine.acting_after settled.reached step)
  rw [← engine_acted, ← reporter_cleared (progress.acted step)] at told
  obtain ⟨mode, own, queues⟩ := told.queues
  obtain ⟨events, waiting⟩ := collected queues number
  have delivered : ((progress.engine.denials step.operations).map Denial.event).map
      (Delivery.mk (Reporter.channelOf mode) number) =
        (progress.engine.denials step.operations).map (Denial.delivery number) := by
    rw [List.map_map]
    refine List.map_congr_left fun denial member => ?_
    rw [← own denial member, denial.channelOf_mode]
    rfl
  rw [delivered, events_cleared, events_acted] at events
  refine ⟨⟨settled.reached.played number step, waiting, ?_, ?_⟩,
    ⟨events, told.counted, told.killed, told.mode⟩⟩
  · rw [Progress.played, capacity_collect, capacity_collect]
    exact told.capacity.symm ▸ settled.room
  · exact congrArg (fun reporter => reporter.killed.length) (reporter_cleared (progress.acted step)).symm

/-! ## Replays -/

/-- The mode in force at a step: the one that was set last before it, or that of the configuration. -/
def modeAt (config : Config) (steps : List TraceStep) (number : Nat) : Mode :=
  ((steps.take number).filterMap TraceStep.mode?).getLast?.getD config.mode

theorem modeAt_append (config : Config) {steps : List TraceStep} (rest : List TraceStep)
    (before : number ≤ steps.length) :
    modeAt config (steps ++ rest) number = modeAt config steps number := by
  rw [modeAt, List.take_append_of_le_length before, modeAt]

theorem modeAt_concat (config : Config) (steps : List TraceStep) (step : TraceStep) :
    modeAt config (steps ++ [step]) (steps ++ [step]).length =
      step.mode?.getD (modeAt config steps steps.length) := by
  rw [modeAt, List.take_length, List.filterMap_append, modeAt, List.take_length]
  cases set : step.mode? <;> simp [set]

def Delivery.leaver? (steps : List TraceStep) (delivery : Delivery) : Option Task :=
  steps[delivery.step]?.bind TraceStep.leaver?

structure Delivery.Explained (config : Config) (steps : List TraceStep) (delivery : Delivery) :
    Prop where
  caller : ∃ task, delivery.leaver? steps = some task ∧ task.tid = delivery.event.tid
  channel : delivery.channel = Reporter.channelOf (modeAt config steps delivery.step)

structure Tells (config : Config) (assignments : Assignments) (first : Progress)
    (steps : List TraceStep) (progress : Progress) : Prop where
  settled : Settled config assignments progress
  mode : progress.engine.mode = modeAt config steps steps.length
  ordered : (progress.events.map Delivery.step).Pairwise (· < ·)
  numbered : ∀ delivery ∈ progress.events, delivery.step < steps.length
  explained : ∀ delivery ∈ progress.events, delivery.Explained config steps
  counted : progress.engine.reporter.denials = .ofNat progress.events.length
  killed : progress.engine.reporter.killed.map some =
    (progress.events.filter fun delivery => delivery.channel = .enforcement).map
      (Delivery.leaver? steps)
  complete : ∀ number step, steps[number]? = some step →
    (progress.events.filter fun delivery => delivery.step = number) =
      ((first.playedAll 0 (steps.take number)).engine.denials step.operations).map
        (Denial.delivery number)

section Append

variable {steps : List TraceStep} {delivery : Delivery}

theorem leaver?_append (early : delivery.step < steps.length) (rest : List TraceStep) :
    delivery.leaver? (steps ++ rest) = delivery.leaver? steps := by
  rw [Delivery.leaver?, List.getElem?_append_left early, Delivery.leaver?]

theorem Delivery.Explained.append (explained : delivery.Explained config steps)
    (early : delivery.step < steps.length) (rest : List TraceStep) :
    delivery.Explained config (steps ++ rest) where
  caller := leaver?_append early rest ▸ explained.caller
  channel := by rw [modeAt_append config rest (Nat.le_of_lt early), explained.channel]

theorem explained_delivery {denial : Denial} (leaves : step.leaver? = some denial.task)
    (mode : denial.mode = modeAt config steps steps.length) :
    (denial.delivery steps.length).Explained config (steps ++ [step]) where
  caller := by
    refine ⟨denial.task, ?_, rfl⟩
    rw [Delivery.leaver?, Denial.delivery, List.getElem?_concat_length]
    exact leaves
  channel := by
    change denial.channel = Reporter.channelOf (modeAt config (steps ++ [step]) steps.length)
    rw [← denial.channelOf_mode, mode, modeAt_append config [step] (Nat.le_refl _)]

end Append

/-- The deliveries of a step, among those of the steps before and those of the last one. -/
theorem filter_step_append {earlier added : List Delivery} {last : Nat}
    (before : ∀ delivery ∈ earlier, delivery.step < last)
    (here : ∀ delivery ∈ added, delivery.step = last) (number : Nat) :
    ((earlier ++ added).filter fun delivery => delivery.step = number) =
      if number = last then added else earlier.filter fun delivery => delivery.step = number := by
  rw [List.filter_append]
  by_cases same : number = last
  · have none : (earlier.filter fun delivery => delivery.step = number) = [] := by
      simp only [List.filter_eq_nil_iff, decide_eq_true_eq, same]
      exact fun delivery member => Nat.ne_of_lt (before delivery member)
    have all : (added.filter fun delivery => delivery.step = number) = added := by
      simpa only [List.filter_eq_self, decide_eq_true_eq, same] using here
    rw [if_pos same, none, all, List.nil_append]
  · have none : (added.filter fun delivery => delivery.step = number) = [] := by
      simp only [List.filter_eq_nil_iff, decide_eq_true_eq]
      exact fun delivery member => ne_of_eq_of_ne (here delivery member) (Ne.symm same)
    rw [if_neg same, none, List.append_nil]

/-- The deliveries of a step are explained by it, and its kills are among them. -/
theorem Settled.explained (settled : Settled config assignments progress) {steps : List TraceStep}
    (mode : progress.engine.mode = modeAt config steps steps.length) (step : TraceStep) :
    let denials := progress.engine.denials step.operations
    let added := denials.map (Denial.delivery steps.length)
    (added.map Delivery.step).Pairwise (· < ·) ∧
      (∀ delivery ∈ added, delivery.step = steps.length ∧
        delivery.Explained config (steps ++ [step])) ∧
      (denials.flatMap fun denial => denial.mode.targets denial.task).map some =
        (added.filter fun delivery => delivery.channel = .enforcement).map
          (Delivery.leaver? (steps ++ [step])) := by
  rcases (Engine.acting_after settled.reached step).denials_cases with
    none | ⟨denial, one, leaves, own⟩
  · simp [none]
  · have leaver : (denial.delivery steps.length).leaver? (steps ++ [step]) = some denial.task := by
      rw [Delivery.leaver?, Denial.delivery, List.getElem?_concat_length]
      exact leaves
    simp only [one, List.map_cons, List.map_nil, List.mem_singleton, forall_eq,
      List.flatMap_singleton]
    refine ⟨List.pairwise_singleton _ _, ⟨rfl, explained_delivery leaves (own.trans mode)⟩, ?_⟩
    have channel : (denial.delivery steps.length).channel = Reporter.channelOf denial.mode :=
      denial.channelOf_mode.symm
    cases mode : denial.mode with
    | enforcing => simp [Mode.targets, channel, mode, Reporter.channelOf, leaver]
    | audit => simp [Mode.targets, channel, mode, Reporter.channelOf]

theorem Tells.played {first : Progress} {steps : List TraceStep}
    (tells : Tells config assignments first steps (first.playedAll 0 steps)) (step : TraceStep) :
    Tells config assignments first (steps ++ [step])
      ((first.playedAll 0 steps).played steps.length step) := by
  obtain ⟨settled, plays⟩ := tells.settled.played steps.length step
  obtain ⟨ordered, explained, killed⟩ := tells.settled.explained tells.mode step
  have events := plays.events
  constructor
  case settled => exact settled
  case mode => rw [plays.mode, tells.mode, modeAt_concat]
  case ordered =>
    rw [events, List.map_append, List.pairwise_append]
    refine ⟨tells.ordered, ordered, fun early earlier late later => ?_⟩
    obtain ⟨delivery, member, rfl⟩ := List.mem_map.mp earlier
    obtain ⟨other, added, rfl⟩ := List.mem_map.mp later
    rw [(explained other added).1]
    exact tells.numbered delivery member
  case numbered =>
    rw [events]
    refine List.forall_mem_append.mpr ⟨fun delivery member => ?_, fun delivery added => ?_⟩
    · exact Nat.lt_of_lt_of_le (tells.numbered delivery member) (by simp)
    · rw [(explained delivery added).1]
      simp
  case explained =>
    rw [events]
    refine List.forall_mem_append.mpr ⟨fun delivery member => ?_, fun delivery added => ?_⟩
    · exact (tells.explained delivery member).append (tells.numbered delivery member) [step]
    · exact (explained delivery added).2
  case counted =>
    rw [plays.counted, tells.counted, events, List.length_append, List.length_map, UInt64.ofNat_add]
  case killed =>
    rw [plays.killed, events, List.map_append, tells.killed, killed, List.filter_append,
      List.map_append]
    congr 1
    refine List.map_congr_left fun delivery member => ?_
    exact (leaver?_append (tells.numbered delivery (List.mem_of_mem_filter member)) [step]).symm
  case complete =>
    intro number other found
    rw [events, filter_step_append tells.numbered fun delivery added => (explained delivery added).1]
    by_cases last : number = steps.length
    · subst last
      rw [List.getElem?_concat_length, Option.some.injEq] at found
      rw [if_pos rfl, List.take_left, found]
    · have bound := (List.getElem?_eq_some_iff.mp found).1
      rw [List.length_append, List.length_singleton] at bound
      have early : number < steps.length := by omega
      rw [List.getElem?_append_left early] at found
      rw [if_neg last, List.take_append_of_le_length (Nat.le_of_lt early),
        ← tells.complete number other found]

theorem settled_start {engine : Engine}
    (prepared : prepare trace config assignments files = .ok engine) :
    Settled config assignments (start engine) := by
  have reporter := reporter_of_prepare prepared
  refine ⟨reached_of_prepare prepared, fun channel => ?_, ?_, ?_⟩
  · rw [start, Engine.bus, reporter]
    exact Bus.queue_new _ channel
  · rw [start, Engine.bus, reporter]
    exact Nat.lt_of_lt_of_le Nat.one_pos (Nat.le_max_right _ _)
  · rw [start, reporter]
    rfl

theorem tells_start {engine : Engine}
    (prepared : prepare trace config assignments files = .ok engine) :
    Tells config assignments (start engine) [] (start engine) where
  settled := settled_start prepared
  mode := by
    rw [start, Engine.mode, reporter_of_prepare prepared]
    rfl
  ordered := List.Pairwise.nil
  numbered := nofun
  explained := nofun
  counted := by
    rw [start, reporter_of_prepare prepared]
    rfl
  killed := by
    rw [start, reporter_of_prepare prepared]
    rfl
  complete := nofun

theorem tells_playedAll {engine : Engine}
    (prepared : prepare trace config assignments files = .ok engine) (steps : List TraceStep) :
    Tells config assignments (start engine) steps ((start engine).playedAll 0 steps) := by
  induction steps using List.reverseRecOn with
  | nil => exact tells_start prepared
  | append_singleton earlier step ih =>
    rw [playedAll_concat, Nat.zero_add]
    exact ih.played step

theorem length_events_le {events : List Delivery} {count : Nat}
    (ordered : (events.map Delivery.step).Pairwise (· < ·))
    (numbered : ∀ delivery ∈ events, delivery.step < count) : events.length ≤ count := by
  have distinct : (events.map Delivery.step).Nodup := ordered.imp Nat.ne_of_lt
  have inside : events.map Delivery.step ⊆ List.range count := by
    intro number member
    obtain ⟨delivery, present, rfl⟩ := List.mem_map.mp member
    exact List.mem_range.mpr (numbered delivery present)
  simpa using (distinct.subperm inside).length_le

/-- What the report of a replay says of the steps of the trace. -/
structure Faithful (trace : Trace) (config : Config) (assignments : Assignments) (files : Files)
    (report : Report) : Prop where
  ordered : (report.events.map Delivery.step).Pairwise (· < ·)
  counted : report.summary.events = report.events.length ∧
    report.summary.stats.denials = .ofNat report.events.length
  exact : trace.steps.length < UInt64.size →
    report.summary.stats.denials.toNat = report.events.length
  lossless : report.summary.stats.droppedEnforcement = 0 ∧
    report.summary.stats.droppedWouldHaveEnforced = 0
  attributed : ∀ delivery ∈ report.events, ∃ step task,
    trace.steps[delivery.step]? = some step ∧ step.leaver? = some task ∧
      task.tid = delivery.event.tid
  channel : ∀ delivery ∈ report.events,
    (delivery.channel = .enforcement ↔ modeAt config trace.steps delivery.step = .enforcing) ∧
      (delivery.channel = .wouldHaveEnforced ↔ modeAt config trace.steps delivery.step = .audit)
  killed : report.killed.map some =
    (report.events.filter fun delivery => delivery.channel = .enforcement).map
      (Delivery.leaver? trace.steps)
  kills : report.summary.killed = report.killed.length
  complete : ∀ number step progress, trace.steps[number]? = some step →
    stage trace config assignments files number = .ok progress →
      (report.events.filter fun delivery => delivery.step = number) =
        (progress.engine.denials step.operations).map (Denial.delivery number)

/-- A replay that succeeds reports each denial once, at its step and on the channel of the mode in force,
and nothing else; and it kills exactly the callers of the denials that are enforced. -/
theorem faithful_of_run {report : Report}
    (succeeded : (run trace config assignments files).value = .ok report) :
    Faithful trace config assignments files report := by
  obtain ⟨engine, prepared, rfl⟩ := exists_prepared succeeded
  have tells := tells_playedAll prepared trace.steps
  have waiting := tells.settled.waiting
  constructor
  case ordered => exact tells.ordered
  case counted => exact ⟨rfl, tells.counted⟩
  case exact =>
    intro few
    have fewer := length_events_le tells.ordered tells.numbered
    exact (congrArg UInt64.toNat tells.counted).trans (UInt64.toNat_ofNat_of_lt' (by omega))
  case lossless =>
    exact ⟨congrArg Queue.dropped (waiting .enforcement),
      congrArg Queue.dropped (waiting .wouldHaveEnforced)⟩
  case attributed =>
    intro delivery member
    obtain ⟨task, leaves, same⟩ := (tells.explained delivery member).caller
    obtain ⟨step, found, leaver⟩ := Option.bind_eq_some_iff.mp leaves
    exact ⟨step, task, found, leaver, same⟩
  case channel =>
    intro delivery member
    rw [(tells.explained delivery member).channel]
    cases modeAt config trace.steps delivery.step <;> simp [Reporter.channelOf]
  case killed => exact tells.killed
  case kills => rfl
  case complete =>
    intro number step progress found staged
    rw [stage_eq prepared, Except.ok.injEq] at staged
    rw [← staged]
    exact tells.complete number step found

/-- A task that is denied three opens: one that is only reported, one for which it is killed, and, when a
new task has its number and its profile, one more that is only reported. -/
def relapse : Trace where
  profiles := [⟨none, some 0, some 5, none, 0, .denyAll⟩]
  steps :=
    [.kernel (.processCreate 0 7 7), .kernel (.programLoad 7 ⟨0, 5⟩), .openCall ⟨7, none, 1, 0⟩,
      .setMode .enforcing, .openCall ⟨7, none, 1, 0⟩, .openCall ⟨7, none, 1, 0⟩,
      .kernel (.processCreate 0 7 7), .kernel (.programLoad 7 ⟨0, 5⟩), .setMode .audit,
      .kernel (.openExit ⟨7, 7⟩)]

def relapseReport : Report where
  events :=
    [⟨.wouldHaveEnforced, 2, ⟨7, 7, Executable.profileKey ⟨0, 5⟩⟩⟩,
      ⟨.enforcement, 4, ⟨7, 7, Executable.profileKey ⟨0, 5⟩⟩⟩,
      ⟨.wouldHaveEnforced, 9, ⟨7, 7, Executable.profileKey ⟨0, 5⟩⟩⟩]
  killed := [⟨7, 7⟩]
  summary := ⟨10, 3, 1, 0, ⟨1, 1, 1, 0, 0, 3, 0, 0⟩⟩

theorem run_relapse :
    (run relapse ⟨2, 2, 1, .audit, .perThread, 1⟩ .direct (.ofListing [] [])).value =
      .ok relapseReport := by
  decide +kernel

theorem faithful_relapse :
    (run relapse ⟨2, 2, 1, .audit, .perThread, 1⟩ .direct (.ofListing [] [])).value =
        .ok relapseReport ∧
      Faithful relapse ⟨2, 2, 1, .audit, .perThread, 1⟩ .direct (.ofListing [] []) relapseReport :=
  ⟨run_relapse, faithful_of_run run_relapse⟩

end Replay

end Confinement
