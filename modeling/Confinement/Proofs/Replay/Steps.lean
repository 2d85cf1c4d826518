import Confinement.Proofs.Engine.Denials
import Confinement.Replay

/-! Replays as runs of an engine.

Once the profiles of a trace are installed, nothing in its steps can stop a replay: an event fails only
where a table is full, which is counted and passed over. So each step leads to a next state, by operations
that the step itself brings, the exits of the tasks that it killed, and the drains of two channels.
-/

set_option autoImplicit false

namespace Confinement

def TraceStep.operations : TraceStep → List Operation
  | .setMode mode => [.setMode mode]
  | step => (Replay.eventsOf step).map .event

def Response.isFailed : Response → Bool
  | failed _ => true
  | _ => false

theorem Engine.full_of_handle {engine : Engine} {event : KernelEvent} {error : Error}
    (failed : (engine.handle event).value.2 = .error error) :
    ∃ table capacity, error = .capacity table capacity := by
  cases event with
  | processCreate parent child group =>
    rw [handle, Logged.value_bind, Tracker.value_create] at failed
    dsimp only [Logged.value_pure] at failed
    split at failed
    · cases failed
    · cases failed
      exact ⟨_, _, rfl⟩
  | _ => cases failed

namespace Replay

namespace Progress

def fed (progress : Progress) (event : KernelEvent) : Progress :=
  { progress with
    engine := progress.engine.next (.event event)
    capacityErrors := progress.capacityErrors +
      if (progress.engine.handle event).value.2.toBool then 0 else 1 }

def acted (progress : Progress) (step : TraceStep) : Progress :=
  match step with
  | .setMode mode => { progress with engine := progress.engine.next (.setMode mode) }
  | step => (eventsOf step).foldl fed progress

def cleared (progress : Progress) : Progress :=
  { (pendingExits progress).foldl fed progress with
    reaped := progress.engine.reporter.killed.length }

def played (progress : Progress) (number : Nat) (step : TraceStep) : Progress :=
  collect (collect (progress.acted step).cleared number .enforcement) number .wouldHaveEnforced

def playedAll : Nat → List TraceStep → Progress → Progress
  | _, [], progress => progress
  | number, step :: rest, progress => playedAll (number + 1) rest (progress.played number step)

def start (engine : Engine) : Progress :=
  ⟨engine, 0, 0, []⟩

def report (progress : Progress) (trace : Trace) : Report :=
  ⟨progress.events, progress.engine.reporter.killed, summarize trace progress⟩

end Progress

open Progress

/-! ## No step fails -/

theorem value_feed (progress : Progress) (event : KernelEvent) :
    (feed progress event).value = .ok (progress.fed event) := by
  have full := @Engine.full_of_handle progress.engine event
  have next : progress.engine.next (.event event) = (progress.engine.handle event).value.1 := rfl
  rw [feed, Logged.value_bind, fed, next]
  generalize (progress.engine.handle event).value = handled at full
  obtain ⟨engine, answer⟩ := handled
  cases answer with
  | ok outcome => rfl
  | error error =>
    obtain ⟨table, capacity, rfl⟩ := full rfl
    rfl

theorem value_feedAll (events : List KernelEvent) (progress : Progress) :
    (feedAll events progress).value = .ok (events.foldl fed progress) := by
  induction events generalizing progress with
  | nil => rfl
  | cons event rest ih =>
    rw [feedAll, Logged.value_bind, value_feed]
    exact ih (progress.fed event)

theorem value_act (progress : Progress) (step : TraceStep) :
    (act progress step).value = .ok (progress.acted step) := by
  cases step with
  | setMode mode => rfl
  | kernel event => exact value_feedAll [event] progress
  | openCall call => exact value_feedAll (eventsOf (.openCall call)) progress

theorem value_reap (progress : Progress) : (reap progress).value = .ok progress.cleared := by
  rw [reap, Logged.value_bind, value_feedAll]
  rfl

theorem value_play (progress : Progress) (number : Nat) (step : TraceStep) :
    (play progress number step).value = .ok (progress.played number step) := by
  rw [play, Logged.value_bind, value_act]
  dsimp only
  rw [Logged.value_bind, value_reap]
  rfl

theorem value_playAll (number : Nat) (steps : List TraceStep) (progress : Progress) :
    (playAll number steps progress).value = .ok (progress.playedAll number steps) := by
  induction steps generalizing number progress with
  | nil => rfl
  | cons step rest ih =>
    rw [playAll, Logged.value_bind, value_play]
    exact ih (number + 1) (progress.played number step)

theorem playedAll_concat (number : Nat) (steps : List TraceStep) (step : TraceStep)
    (progress : Progress) :
    progress.playedAll number (steps ++ [step]) =
      (progress.playedAll number steps).played (number + steps.length) step := by
  induction steps generalizing number progress with
  | nil => rfl
  | cons first rest ih =>
    rw [List.cons_append, playedAll, ih, List.length_cons, playedAll, Nat.add_assoc,
      Nat.add_comm 1]

/-! ## Whole replays -/

def prepare (trace : Trace) (config : Config) (assignments : Assignments) (files : Files) :
    Except Error Engine :=
  match (Engine.build config .recording assignments).value with
  | .error error => .error error
  | .ok engine => (installAll files trace.profiles engine).value

/-- The state of a replay after so many steps. -/
def stage (trace : Trace) (config : Config) (assignments : Assignments) (files : Files)
    (number : Nat) : Except Error Progress :=
  match prepare trace config assignments files with
  | .error error => .error error
  | .ok engine => (playAll 0 (trace.steps.take number) (.start engine)).value

variable {trace : Trace} {config : Config} {assignments : Assignments} {files : Files}

theorem value_run (trace : Trace) (config : Config) (assignments : Assignments) (files : Files) :
    (run trace config assignments files).value =
      match prepare trace config assignments files with
      | .error error => .error error
      | .ok engine => .ok (((start engine).playedAll 0 trace.steps).report trace) := by
  rw [run, Logged.value_bind, prepare]
  cases (Engine.build config .recording assignments).value with
  | error error => rfl
  | ok engine =>
    dsimp only
    rw [Logged.value_bind]
    cases (installAll files trace.profiles engine).value with
    | error error => rfl
    | ok engine =>
      dsimp only
      rw [Logged.value_bind, value_playAll]
      rfl

/-- A replay that succeeds has met some engine, and tells what became of it. -/
theorem exists_prepared {report : Report}
    (succeeded : (run trace config assignments files).value = .ok report) :
    ∃ engine, prepare trace config assignments files = .ok engine ∧
      report = ((start engine).playedAll 0 trace.steps).report trace := by
  rw [value_run] at succeeded
  cases prepared : prepare trace config assignments files with
  | error error =>
    rw [prepared] at succeeded
    cases succeeded
  | ok engine =>
    rw [prepared] at succeeded
    exact ⟨engine, rfl, (Except.ok.inj succeeded).symm⟩

theorem stage_eq {engine : Engine} (prepared : prepare trace config assignments files = .ok engine)
    (number : Nat) :
    stage trace config assignments files number =
      .ok ((start engine).playedAll 0 (trace.steps.take number)) := by
  rw [stage, prepared]
  exact value_playAll 0 _ _

/-! ## The engine of a replay -/

/-- The engine comes from a new one that only records whom it would kill, by operations that register
no routine but those of a description. -/
inductive Reached (config : Config) (assignments : Assignments) : Engine → Prop where
  | intro {start : Engine} {operations : List Operation}
      (built : (Engine.build config .recording assignments).value = .ok start)
      (plain : ∀ operation ∈ operations, operation.isDescribed = true) :
      Reached config assignments (start.after operations)

namespace Reached

variable {engine : Engine}

theorem after (reached : Reached config assignments engine) {operations : List Operation}
    (plain : ∀ operation ∈ operations, operation.isDescribed = true) :
    Reached config assignments (engine.after operations) := by
  obtain ⟨built, before⟩ := reached
  rw [← Engine.after_append]
  exact .intro built (List.forall_mem_append.mpr ⟨before, plain⟩)

theorem next (reached : Reached config assignments engine) {operation : Operation}
    (plain : operation.isDescribed = true) :
    Reached config assignments (engine.next operation) := by
  have single : ∀ other ∈ [operation], other.isDescribed = true := by simpa using plain
  exact reached.after single

theorem sound (reached : Reached config assignments engine) : engine.Sound := by
  obtain ⟨built, _⟩ := reached
  exact (Engine.sound_of_build built).after _

theorem consistent (reached : Reached config assignments engine) :
    ∃ published, engine.Consistent published := by
  obtain ⟨built, plain⟩ := reached
  exact ⟨_, Engine.consistent_of_build built (Engine.registers_of_plain plain)⟩

theorem described (reached : Reached config assignments engine) :
    engine.dispatch.Each (·.isDescribed) := by
  obtain ⟨built, plain⟩ := reached
  exact Engine.described_after built plain

theorem restrained (reached : Reached config assignments engine) :
    engine.dispatch.Each Routine.IsRestrained := fun index routine registered =>
  Routine.isRestrained_of_isDescribed (reached.described index routine registered)

theorem recording (reached : Reached config assignments engine) :
    engine.reporter.terminator = .recording := by
  obtain ⟨built, _⟩ := reached
  rw [Engine.terminator_after, Engine.eq_initial_of_build built]
  rfl

end Reached

def installing (profile : TraceProfile) (key : ProfileKey) : Operation :=
  .install key profile.index profile.routine.build

theorem installAll_cons {engine later : Engine} {profile : TraceProfile} {rest : List TraceProfile}
    (installed : (installAll files (profile :: rest) engine).value = .ok later) :
    ∃ key, profile.resolveKey files = .ok key ∧
      (installAll files rest (engine.next (installing profile key))).value = .ok later := by
  unfold installAll at installed
  cases resolved : profile.resolveKey files with
  | error error =>
    rw [resolved] at installed
    cases installed
  | ok key =>
    rw [resolved] at installed
    dsimp only at installed
    rw [Logged.value_bind] at installed
    cases answer : (engine.install key profile.index profile.routine.build).value.2 with
    | error error =>
      rw [answer] at installed
      cases installed
    | ok loaded =>
      rw [answer] at installed
      exact ⟨key, rfl, installed⟩

theorem reached_installAll {engine later : Engine} (reached : Reached config assignments engine)
    {profiles : List TraceProfile}
    (installed : (installAll files profiles engine).value = .ok later) :
    Reached config assignments later := by
  induction profiles generalizing engine with
  | nil =>
    cases installed
    exact reached
  | cons profile rest ih =>
    obtain ⟨key, _, rest⟩ := installAll_cons installed
    have plain : (installing profile key).isDescribed = true := rfl
    exact ih (reached.next plain) rest

theorem reporter_installAll {engine later : Engine} {profiles : List TraceProfile}
    (installed : (installAll files profiles engine).value = .ok later) :
    later.reporter = engine.reporter := by
  induction profiles generalizing engine with
  | nil =>
    cases installed
    rfl
  | cons profile rest ih =>
    obtain ⟨key, _, rest⟩ := installAll_cons installed
    have same := (engine.added_install key profile.index profile.routine.build).reporter
    exact (ih rest).trans same

theorem exists_built {engine : Engine}
    (prepared : prepare trace config assignments files = .ok engine) :
    ∃ first, (Engine.build config .recording assignments).value = .ok first ∧
      (installAll files trace.profiles first).value = .ok engine := by
  unfold prepare at prepared
  cases built : (Engine.build config .recording assignments).value with
  | error error =>
    rw [built] at prepared
    cases prepared
  | ok first =>
    rw [built] at prepared
    exact ⟨first, rfl, prepared⟩

theorem reached_of_prepare {engine : Engine}
    (prepared : prepare trace config assignments files = .ok engine) :
    Reached config assignments engine := by
  obtain ⟨first, built, installed⟩ := exists_built prepared
  have reached : Reached config assignments (first.after []) := .intro built (List.forall_mem_nil _)
  exact reached_installAll reached installed

theorem reporter_of_prepare {engine : Engine}
    (prepared : prepare trace config assignments files = .ok engine) :
    engine.reporter = .new config.mode config.channelCapacity .recording := by
  obtain ⟨first, built, installed⟩ := exists_built prepared
  rw [reporter_installAll installed, Engine.eq_initial_of_build built]
  rfl

/-! ## Steps as operations -/

theorem engine_fedAll (events : List KernelEvent) (progress : Progress) :
    (events.foldl fed progress).engine = progress.engine.after (events.map .event) := by
  induction events generalizing progress with
  | nil => rfl
  | cons event rest ih => exact ih (progress.fed event)

theorem reaped_fedAll (events : List KernelEvent) (progress : Progress) :
    (events.foldl fed progress).reaped = progress.reaped := by
  induction events generalizing progress with
  | nil => rfl
  | cons event rest ih => exact ih (progress.fed event)

theorem events_fedAll (events : List KernelEvent) (progress : Progress) :
    (events.foldl fed progress).events = progress.events := by
  induction events generalizing progress with
  | nil => rfl
  | cons event rest ih => exact ih (progress.fed event)

theorem capacityErrors_fedAll (events : List KernelEvent) (progress : Progress) :
    (events.foldl fed progress).capacityErrors = progress.capacityErrors +
      (progress.engine.run (events.map .event)).value.2.countP Response.isFailed := by
  induction events generalizing progress with
  | nil => rfl
  | cons event rest ih =>
    have answered : (progress.engine.perform (.event event)).value.2 =
      .ofResult .outcome (progress.engine.handle event).value.2 := rfl
    have responses : (progress.engine.run ((event :: rest).map .event)).value.2 =
      (progress.engine.perform (.event event)).value.2 ::
        ((progress.fed event).engine.run (rest.map .event)).value.2 := rfl
    rw [List.foldl_cons, ih, responses, List.countP_cons, answered, Nat.add_comm (List.countP _ _),
      ← Nat.add_assoc]
    congr 1
    rw [fed]
    cases (progress.engine.handle event).value.2 <;> rfl

variable {progress : Progress} {number : Nat} {step : TraceStep}

theorem engine_acted (progress : Progress) (step : TraceStep) :
    (progress.acted step).engine = progress.engine.after step.operations := by
  cases step with
  | setMode mode => rfl
  | kernel event => exact engine_fedAll [event] progress
  | openCall call => exact engine_fedAll (eventsOf (.openCall call)) progress

theorem reaped_acted (progress : Progress) (step : TraceStep) :
    (progress.acted step).reaped = progress.reaped := by
  cases step with
  | setMode mode => rfl
  | kernel event => exact reaped_fedAll [event] progress
  | openCall call => exact reaped_fedAll (eventsOf (.openCall call)) progress

theorem events_acted (progress : Progress) (step : TraceStep) :
    (progress.acted step).events = progress.events := by
  cases step with
  | setMode mode => rfl
  | kernel event => exact events_fedAll [event] progress
  | openCall call => exact events_fedAll (eventsOf (.openCall call)) progress

theorem capacityErrors_acted (progress : Progress) (step : TraceStep) :
    (progress.acted step).capacityErrors = progress.capacityErrors +
      (progress.engine.run step.operations).value.2.countP Response.isFailed := by
  cases step with
  | setMode mode => rfl
  | kernel event => exact capacityErrors_fedAll [event] progress
  | openCall call => exact capacityErrors_fedAll (eventsOf (.openCall call)) progress

theorem capacityErrors_cleared (progress : Progress) :
    progress.cleared.capacityErrors = progress.capacityErrors +
      (progress.engine.run ((pendingExits progress).map .event)).value.2.countP Response.isFailed :=
  capacityErrors_fedAll (pendingExits progress) progress

theorem engine_cleared (progress : Progress) :
    progress.cleared.engine = progress.engine.after ((pendingExits progress).map .event) :=
  engine_fedAll (pendingExits progress) progress

theorem events_cleared (progress : Progress) : progress.cleared.events = progress.events :=
  events_fedAll (pendingExits progress) progress

/-- All that a step does to the engine, with the exits and the drains that end it. -/
theorem engine_played (progress : Progress) (number : Nat) (step : TraceStep) :
    (progress.played number step).engine =
      progress.engine.after (step.operations ++
        (pendingExits (progress.acted step)).map .event ++
        [.drain .enforcement, .drain .wouldHaveEnforced]) := by
  rw [Engine.after_append, Engine.after_append, ← engine_acted, ← engine_cleared]
  rfl

theorem isDescribed_events (events : List KernelEvent) :
    ∀ operation ∈ events.map Operation.event, operation.isDescribed = true := by
  intro operation member
  obtain ⟨event, _, rfl⟩ := List.mem_map.mp member
  rfl

theorem isDescribed_operations (step : TraceStep) :
    ∀ operation ∈ step.operations, operation.isDescribed = true := by
  cases step with
  | setMode mode => simp [TraceStep.operations, Operation.isDescribed, Operation.routine?]
  | kernel event => exact isDescribed_events [event]
  | openCall call => exact isDescribed_events (eventsOf (.openCall call))

theorem isDescribed_played (progress : Progress) (step : TraceStep) :
    ∀ operation ∈ step.operations ++ (pendingExits (progress.acted step)).map .event ++
      [.drain .enforcement, .drain .wouldHaveEnforced], operation.isDescribed = true := by
  refine List.forall_mem_append.mpr ⟨List.forall_mem_append.mpr ⟨?_, ?_⟩, ?_⟩
  · exact isDescribed_operations step
  · exact isDescribed_events _
  · simp [Operation.isDescribed, Operation.routine?]

theorem Reached.played (reached : Reached config assignments progress.engine) (number : Nat)
    (step : TraceStep) : Reached config assignments (progress.played number step).engine := by
  rw [engine_played]
  exact reached.after (isDescribed_played progress step)

end Replay

end Confinement
