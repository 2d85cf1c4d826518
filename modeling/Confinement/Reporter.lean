import Confinement.Bus
import Confinement.Config

/-! Carrying out denials.

The mode is read once for each denial. An enforced denial asks for the task to be killed and is
reported on the enforcement channel; an audited one is reported on the other channel only.
-/

set_option autoImplicit false

namespace Confinement

/-- Delivers the signal that kills a task; the answer to the n-th request may be a failure. -/
structure Terminator where
  refusal : Nat → Task → Option SignalFault

namespace Terminator

def recording : Terminator := ⟨fun _ _ => none⟩

def failing : Terminator := ⟨fun _ _ => some (.other "no such task")⟩

/-- Why a task that does not exist cannot be signalled: the system knows no such process, and it
takes only numbers below 2³¹. -/
def absentTask (task : Task) : SignalFault :=
  if task.tid.toNat < 1 <<< 31 then .system .noProcess else .outOfRange task.tid

/-- Requests to the system, for tasks that do not exist. -/
def signalling : Terminator := ⟨fun _ task => some (absentTask task)⟩

end Terminator

structure Reporter where
  mode : Mode
  bus : Bus
  terminator : Terminator
  denials : UInt64
  requested : List Task
  /-- Those of them for which the request succeeded. -/
  killed : List Task

namespace Reporter

def new (mode : Mode) (channelCapacity : Nat) (terminator : Terminator) : Reporter :=
  ⟨mode, .new channelCapacity, terminator, 0, [], []⟩

def setMode (reporter : Reporter) (mode : Mode) : Logged Reporter := do
  Logged.writeIf (reporter.mode != mode)
    (.enforcement .warn ("Enforcement mode switched to " ++ mode.name))
  pure { reporter with mode }

def channelOf : Mode → Channel
  | .enforcing => .enforcement
  | .audit => .wouldHaveEnforced

def terminate (reporter : Reporter) (task : Task) : Logged Reporter :=
  match reporter.terminator.refusal reporter.requested.length task with
  | some fault => do
    Logged.write (.enforcement .error
      (s!"Failed to signal task {task.tid}: " ++ (Error.signal fault).message))
    pure { reporter with requested := reporter.requested ++ [task] }
  | none =>
    pure { reporter with
      requested := reporter.requested ++ [task]
      killed := reporter.killed ++ [task] }

def eventOf (task : Task) (process : ProcessState) : Event :=
  ⟨process.pid, task.tid, process.profileKey⟩

def decisionLine (mode : Mode) (event : Event) (profile : Profile) : Line :=
  .policy .warn (mode.heading ++ s!" pid={event.pid} tid={event.tid} profile=" ++
    event.profileKey.render ++ s!" routine={profile.index}")

def submit (reporter : Reporter) (channel : Channel) (event : Event) : Logged Reporter := do
  let (bus, queued) := reporter.bus.submit channel event
  Logged.writeIf (!queued)
    (.enforcement .debug (channel.name ++ " channel full, dropped " ++ event.render))
  pure { reporter with bus }

/-- Acts on the denial of a call of a task that runs under a profile, and tells in which mode. -/
def enforce (reporter : Reporter) (task : Task) (process : ProcessState) (profile : Profile) :
    Logged (Reporter × Mode) := do
  let mode := reporter.mode
  let event := eventOf task process
  let reporter := { reporter with denials := reporter.denials + 1 }
  let reporter ← match mode with
    | .enforcing => reporter.terminate task
    | .audit => pure reporter
  Logged.write (decisionLine mode event profile)
  let reporter ← reporter.submit (channelOf mode) event
  pure (reporter, mode)

def outline (reporter : Reporter) : String :=
  Text.outline "EnforcementReporter"
    [("mode", reporter.mode.outline), ("denials", toString reporter.denials)]

end Reporter

end Confinement
