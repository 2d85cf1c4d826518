import Confinement.Dispatch
import Confinement.Files
import Confinement.Lifecycle
import Confinement.Open.Slot

/-! The engine: tracked tasks and profiles, routines, enforcement and captured arguments as one
state, the kernel events that change it, and the calls that load profiles and routines.
-/

set_option autoImplicit false

namespace Confinement

/-- How the keys of the three tables are spread over their shards. -/
structure Assignments where
  process : UInt32 → UInt64
  profile : ProfileKey → UInt64
  openArgs : UInt32 → UInt64

def Assignments.direct : Assignments :=
  ⟨UInt32.toUInt64, ProfileKey.raw, UInt32.toUInt64⟩

inductive KernelEvent where
  | processCreate (parent child childGroup : UInt32)
  | programLoad (tid : UInt32) (executable : Executable)
  | processExit (tid : UInt32)
  | openEntry (task : Task) (flags : OpenFlags)
  | openExit (task : Task)
  deriving DecidableEq, Repr

inductive OpenOutcome where
  | passThrough
  | unconfined
  | profileMissing (key : ProfileKey)
  | routineMissing (index : UInt32)
  | dispatched (index : UInt32) (verdict : Verdict)
  deriving DecidableEq, Repr

def OpenOutcome.isDenied : OpenOutcome → Bool
  | dispatched _ verdict => verdict.isDenied
  | _ => false

/-- What the exit of an open call comes to before any routine runs. -/
inductive Resolution where
  | passed (outcome : OpenOutcome)
  | called (routine : Routine) (context : Context)

inductive Outcome where
  | tracked (process : ProcessState)
  | load (outcome : LoadOutcome)
  | exited (removed : Bool)
  | captured (captured : Bool)
  | opened (outcome : OpenOutcome)
  deriving DecidableEq, Repr

structure Engine where
  config : Config
  tracker : Tracker
  dispatch : DispatchTable
  reporter : Reporter
  slot : OpenSlot
  /-- The calls of routines that follow scripts, oldest first. -/
  scriptRuns : List ScriptRun

namespace Engine

def processes (engine : Engine) : ProcessTable :=
  engine.tracker.processes

def profiles (engine : Engine) : ProfileTable :=
  engine.tracker.profiles

def bus (engine : Engine) : Bus :=
  engine.reporter.bus

def mode (engine : Engine) : Mode :=
  engine.reporter.mode

def initial (config : Config) (terminator : Terminator) (assignments : Assignments) : Engine where
  config
  tracker :=
    { processes :=
        Table.new "process" config.maxProcesses config.tableShards assignments.process
      profiles :=
        Table.new "profile" config.maxProfiles config.tableShards assignments.profile }
  dispatch := .new config.maxProfiles
  reporter := .new config.mode config.channelCapacity terminator
  slot := .new config.openArgsSlot config.maxProcesses config.tableShards assignments.openArgs
  scriptRuns := []

def build (config : Config) (terminator : Terminator) (assignments : Assignments) :
    Logged (Except Error Engine) := do
  match ← config.check with
  | .error error => pure (.error error)
  | .ok () =>
    Logged.write ⟨.info, "bpfbox engine ready: mode=" ++ config.mode.name ++
      s!" processes={config.maxProcesses} profiles={config.maxProfiles} slot=" ++
      config.openArgsSlot.outline⟩
    pure (.ok (initial config terminator assignments))

/-- The entry of an open call: the arguments of a tracked caller are kept. -/
def enterOpen (engine : Engine) (task : Task) (flags : OpenFlags) : Logged (Engine × Bool) := do
  let (processes, found) := engine.processes.lookup task.tid
  let engine := { engine with tracker := { engine.tracker with processes } }
  match found with
  | none => pure (engine, false)
  | some _ =>
    let (slot, captured) ← engine.slot.capture task.tid flags
    Logged.writeIf (!captured) ⟨.debug, s!"Open arguments of task {task.tid} not captured"⟩
    pure ({ engine with slot }, captured)

/-- Looks for the routine of the profile of a caller that leaves an open call, and takes the
captured arguments along. -/
def resolveOpen (engine : Engine) (task : Task) : Logged (Engine × Resolution) := do
  -- Whatever is missing on the way lets the call through.
  let (slot, flags) := engine.slot.take task.tid
  let (processes, found) := engine.processes.lookup task.tid
  let engine := { engine with slot, tracker := { engine.tracker with processes } }
  match found with
  | none => pure (engine, .passed .passThrough)
  | some process =>
    if process.isConfined then
      let (profiles, loaded) := engine.profiles.lookup process.profileKey
      let engine := { engine with tracker := { engine.tracker with profiles } }
      match loaded with
      | none =>
        Logged.write ⟨.debug, s!"Task {task.tid} confined by unknown profile " ++
          process.profileKey.render ++ ", allowing"⟩
        pure (engine, .passed (.profileMissing process.profileKey))
      | some profile =>
        match engine.dispatch.get? profile.index with
        | none =>
          Logged.write ⟨.debug, s!"No routine at dispatch index {profile.index}, allowing"⟩
          pure (engine, .passed (.routineMissing profile.index))
        | some routine =>
          pure (engine, .called routine
            { task, process, profile, flags
              processes := engine.processes
              reporter := engine.reporter
              verdict := .allowed
              memory := engine.scriptRuns })
    else pure (engine, .passed .unconfined)

def runRoutine (engine : Engine) (routine : Routine) (context : Context) :
    Logged (Engine × Verdict) := do
  let (context, report) ← routine.run context
  pure ({ engine with
    tracker := { engine.tracker with processes := context.processes }
    reporter := context.reporter
    scriptRuns := engine.scriptRuns ++ report.toList }, context.verdict)

/-- The exit of an open call: the routine of the profile of the caller decides. -/
def exitOpen (engine : Engine) (task : Task) : Logged (Engine × OpenOutcome) := do
  let (engine, resolution) ← engine.resolveOpen task
  match resolution with
  | .passed outcome => pure (engine, outcome)
  | .called routine context =>
    let (engine, verdict) ← engine.runRoutine routine context
    Logged.write ⟨.trace, s!"Task {task.tid} open under " ++ context.process.profileKey.render ++
      " handled by '" ++ routine.name ++ "': " ++ verdict.outline⟩
    match verdict with
    | .allowed => pure ()
    | .denied mode =>
      Logged.write (.enforcement .debug ("Routine '" ++ routine.name ++
        s!"' denied open by task {task.tid} (" ++ mode.name ++ ")"))
    pure (engine, .dispatched context.profile.index verdict)

def handle (engine : Engine) (event : KernelEvent) : Logged (Engine × Except Error Outcome) :=
  match event with
  | .processCreate parent child childGroup => do
    let (tracker, answer) ← engine.tracker.create parent child childGroup
    pure ({ engine with tracker }, answer.map .tracked)
  | .programLoad tid executable => do
    let (tracker, outcome) ← engine.tracker.load tid executable
    pure ({ engine with tracker }, .ok (.load outcome))
  | .processExit tid => do
    let (tracker, removed) ← engine.tracker.exit tid
    pure ({ engine with tracker }, .ok (.exited removed.isSome))
  | .openEntry task flags => do
    let (engine, captured) ← engine.enterOpen task flags
    pure (engine, .ok (.captured captured))
  | .openExit task => do
    let (engine, outcome) ← engine.exitOpen task
    pure (engine, .ok (.opened outcome))

def setMode (engine : Engine) (mode : Mode) : Logged Engine := do
  let reporter ← engine.reporter.setMode mode
  pure { engine with reporter }

def drain (engine : Engine) (channel : Channel) : Engine × List Event :=
  let (bus, events) := engine.bus.drain channel
  ({ engine with reporter := { engine.reporter with bus } }, events)

end Engine

end Confinement
