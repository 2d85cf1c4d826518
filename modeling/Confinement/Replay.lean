import Confinement.Engine.Loader
import Confinement.Engine.Outline
import Confinement.Trace.Basic

/-! Replaying a trace through a fresh engine that only records whom it would kill.

After each step the tasks that were to be killed leave, as the kernel would report next, and the
waiting events are taken off the channels.
-/

set_option autoImplicit false

namespace Confinement.Replay

/-- An event as it came off its channel, with the number of the step that produced it. -/
structure Delivery where
  channel : Channel
  step : Nat
  event : Event
  deriving DecidableEq, Repr

structure Summary where
  steps : Nat
  events : Nat
  killed : Nat
  capacityErrors : Nat
  stats : Stats
  deriving DecidableEq, Repr

structure Report where
  events : List Delivery
  killed : List Task
  summary : Summary
  deriving DecidableEq, Repr

/-- The state between two steps. -/
structure Progress where
  engine : Engine
  reaped : Nat
  capacityErrors : Nat
  events : List Delivery

def feed (progress : Progress) (event : KernelEvent) : Logged (Except Error Progress) := do
  -- A full process table is counted and passed over.
  let (engine, answer) ← progress.engine.handle event
  let progress := { progress with engine }
  match answer with
  | .ok outcome =>
    Logged.write ⟨.trace, event.outline ++ " -> " ++ outcome.outline⟩
    pure (.ok progress)
  | .error (.capacity table capacity) =>
    Logged.write ⟨.warn, s!"{table} table full (capacity {capacity}), continuing"⟩
    pure (.ok { progress with capacityErrors := progress.capacityErrors + 1 })
  | .error error => pure (.error error)

def feedAll : List KernelEvent → Progress → Logged (Except Error Progress)
  | [], progress => pure (.ok progress)
  | event :: rest, progress => do
    match ← feed progress event with
    | .ok progress => feedAll rest progress
    | .error error => pure (.error error)

def eventsOf : TraceStep → List KernelEvent
  -- An open call is its entry and its exit.
  | .kernel event => [event]
  | .openCall call => [.openEntry call.task call.openFlags, .openExit call.task]
  | .setMode _ => []

def act (progress : Progress) (step : TraceStep) : Logged (Except Error Progress) :=
  match step with
  | .setMode mode => do
    let engine ← progress.engine.setMode mode
    pure (.ok { progress with engine })
  | step => feedAll (eventsOf step) progress

/-- The exits of the tasks that were killed since the last time. -/
def pendingExits (progress : Progress) : List KernelEvent :=
  (progress.engine.reporter.killed.drop progress.reaped).map fun task => .processExit task.tid

/-- Lets the killed tasks leave. -/
def reap (progress : Progress) : Logged (Except Error Progress) := do
  let killed := progress.engine.reporter.killed.length
  match ← feedAll (pendingExits progress) progress with
  | .ok progress => pure (.ok { progress with reaped := killed })
  | .error error => pure (.error error)

def collect (progress : Progress) (number : Nat) (channel : Channel) : Progress :=
  let (engine, events) := progress.engine.drain channel
  { progress with
    engine
    events := progress.events ++ events.map fun event => ⟨channel, number, event⟩ }

def play (progress : Progress) (number : Nat) (step : TraceStep) :
    Logged (Except Error Progress) := do
  match ← act progress step with
  | .error error => pure (.error error)
  | .ok progress =>
    match ← reap progress with
    | .error error => pure (.error error)
    | .ok progress =>
      pure (.ok (collect (collect progress number .enforcement) number .wouldHaveEnforced))

/-- Plays steps in order, numbering them on. -/
def playAll : Nat → List TraceStep → Progress → Logged (Except Error Progress)
  | _, [], progress => pure (.ok progress)
  | number, step :: rest, progress => do
    match ← play progress number step with
    | .ok progress => playAll (number + 1) rest progress
    | .error error => pure (.error error)

def installAll (files : Files) : List TraceProfile → Engine → Logged (Except Error Engine)
  | [], engine => pure (.ok engine)
  | profile :: rest, engine =>
    match profile.resolveKey files with
    | .error error => pure (.error error)
    | .ok key => do
      let (engine, answer) ← engine.install key profile.index profile.routine.build
      match answer with
      | .ok _ => installAll files rest engine
      | .error error => pure (.error error)

def summarize (trace : Trace) (progress : Progress) : Summary where
  steps := trace.steps.length
  events := progress.events.length
  killed := progress.engine.reporter.killed.length
  capacityErrors := progress.capacityErrors
  stats := progress.engine.stats

def run (trace : Trace) (config : Config) (assignments : Assignments) (files : Files) :
    Logged (Except Error Report) := do
  match ← Engine.build config .recording assignments with
  | .error error => pure (.error error)
  | .ok engine =>
    match ← installAll files trace.profiles engine with
    | .error error => pure (.error error)
    | .ok engine =>
      match ← playAll 0 trace.steps ⟨engine, 0, 0, []⟩ with
      | .error error => pure (.error error)
      | .ok progress =>
        let summary := summarize trace progress
        Logged.write ⟨.info, s!"Replayed {summary.steps} steps: {summary.events} events, " ++
          s!"{summary.killed} kills"⟩
        pure (.ok ⟨progress.events, progress.engine.reporter.killed, summary⟩)

end Confinement.Replay
