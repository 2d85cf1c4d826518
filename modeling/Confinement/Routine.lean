import Confinement.Open.Flags
import Confinement.Reporter
import Confinement.Table.Operation

/-! Policy routines, and what they see and change while they run.

A routine decides alone: it allows a call by doing nothing and denies it through the reporter. A trace
describes routines of a few kinds. Any other one is a script: it makes requests one after another, and each
may depend on the answers to those before it and on all that scripts were answered in earlier calls.
-/

set_option autoImplicit false

namespace Confinement

inductive Verdict where
  | allowed
  | denied (mode : Mode)
  deriving DecidableEq, Repr

namespace Verdict

def isDenied : Verdict → Bool
  | allowed => false
  | denied _ => true

def outline : Verdict → String
  | allowed => "Allowed"
  | denied mode => Text.outlineOf "Denied" mode.outline

end Verdict

/-- The access classes that a profile allows, allows with a taint, and allows with a line in the
log; anything else is denied. -/
structure AccessPolicy where
  allow : Access
  taint : Access
  audit : Access
  deriving DecidableEq, Repr

namespace AccessPolicy

def default : AccessPolicy := ⟨.none, .none, .none⟩

instance : Inhabited AccessPolicy := ⟨default⟩

def new (allow : Access) : AccessPolicy :=
  { default with allow }

def withTaint (policy : AccessPolicy) (taint : Access) : AccessPolicy :=
  { policy with taint }

def withAudit (policy : AccessPolicy) (audit : Access) : AccessPolicy :=
  { policy with audit }

end AccessPolicy

inductive RoutineSpec where
  | allowAll
  | denyAll
  | access (policy : AccessPolicy)
  deriving DecidableEq, Repr

/-- What a routine is called with. -/
structure Situation where
  task : Task
  process : ProcessState
  profile : Profile
  flags : Option OpenFlags
  deriving DecidableEq, Repr

def Situation.requested (situation : Situation) : Access :=
  -- None if nothing was captured.
  match situation.flags with
  | some flags => flags.access
  | none => .none

/-- What a routine may ask for while it decides. -/
inductive Request where
  | read
  | write (situation : Situation)
  | deny
  | setTainted (tainted : Bool)
  | verdict
  | table (operation : TableOperation UInt32 ProcessState)

inductive Answer where
  | situation (situation : Situation)
  | written
  | mode (mode : Mode)
  | changed (changed : Bool)
  | verdict (verdict : Verdict)
  | table (answer : TableAnswer ProcessState)
  deriving DecidableEq, Repr

/-- The requests of a routine in one call. -/
inductive Script where
  | done
  | ask (request : Request) (next : Answer → Script)

/-- A call of a routine that follows a script: what it was called with, what it was answered, and how it
ended. -/
structure ScriptRun extends Situation where
  routine : String
  answers : List Answer
  verdict : Verdict
  deriving DecidableEq, Repr

/-- A routine in the dispatch table. -/
inductive Routine where
  | described (spec : RoutineSpec)
  /-- Follows a script that depends on earlier calls and on what it is called with. -/
  | custom (name : String) (script : List ScriptRun → Situation → Script)

def RoutineSpec.build (spec : RoutineSpec) : Routine :=
  .described spec

def RoutineSpec.name : RoutineSpec → String
  | allowAll => "allow_all"
  | denyAll => "deny_all"
  | access _ => "access"

def Routine.name : Routine → String
  | described spec => spec.name
  | custom name _ => name

structure Context extends Situation where
  processes : ProcessTable
  reporter : Reporter
  verdict : Verdict
  memory : List ScriptRun

namespace Context

def setTainted (context : Context) (tainted : Bool) : Context × Bool :=
  -- Fails if its record is gone.
  let (processes, old) :=
    context.processes.modify context.process.pid fun record => { record with tainted }
  if old.isSome then
    ({ context with processes, process := { context.process with tainted } }, true)
  else ({ context with processes }, false)

def deny (context : Context) : Logged (Context × Mode) := do
  let (reporter, mode) ← context.reporter.enforce context.task context.process context.profile
  pure ({ context with reporter, verdict := .denied mode }, mode)

end Context

namespace AccessPolicy

inductive Rule where
  | allow
  | taint
  | audit
  | deny
  deriving DecidableEq, Repr

/-- The first set that covers the request decides. -/
def rule (policy : AccessPolicy) (requested : Access) : Rule :=
  -- An empty taint or audit set covers nothing.
  if policy.allow.contains requested then .allow
  else if !policy.taint.isEmpty && policy.taint.contains requested then .taint
  else if !policy.audit.isEmpty && policy.audit.contains requested then .audit
  else .deny

def run (policy : AccessPolicy) (context : Context) : Logged Context :=
  let requested := context.requested
  match policy.rule requested with
  | .allow => pure context
  | .taint => do
    Logged.writeIf (!context.process.tainted)
      (.policy .info (s!"Tainting task {context.task.tid} after '" ++ requested.render ++
        "' access"))
    pure (context.setTainted true).1
  | .audit => do
    Logged.write
      (.policy .warn (s!"AUDIT task {context.task.tid} '" ++ requested.render ++
        "' access under " ++ context.profile.key.render))
    pure context
  | .deny => do
    let (context, _) ← context.deny
    pure context

end AccessPolicy

def RoutineSpec.run (spec : RoutineSpec) (context : Context) : Logged Context :=
  match spec with
  | allowAll => pure context
  | denyAll => do
    let (context, _) ← context.deny
    pure context
  | access policy => policy.run context

def Request.perform (request : Request) (context : Context) : Logged (Context × Answer) :=
  match request with
  | read => pure (context, .situation context.toSituation)
  | write situation => pure ({ context with toSituation := situation }, .written)
  | deny => do
    let (context, mode) ← context.deny
    pure (context, .mode mode)
  | setTainted tainted =>
    let (context, changed) := context.setTainted tainted
    pure (context, .changed changed)
  | verdict => pure (context, .verdict context.verdict)
  | table operation => do
    let (processes, answer) := context.processes.perform operation
    Logged.writeIf (processes.evicted != context.processes.evicted) context.processes.evictionLine
    pure ({ context with processes }, .table answer)

namespace Script

def run : Script → Context → Logged (Context × List Answer)
  | done, context => pure (context, [])
  | ask request next, context => do
    let (context, answer) ← request.perform context
    let (context, answers) ← (next answer).run context
    pure (context, answer :: answers)

def ofRequests : List Request → Script
  | [] => done
  | request :: rest => ask request fun _ => ofRequests rest

end Script

def Routine.run (routine : Routine) (context : Context) : Logged (Context × Option ScriptRun) :=
  match routine with
  | described spec => do
    let context ← spec.run context
    pure (context, none)
  | custom name script => do
    let (after, answers) ← (script context.memory context.toSituation).run context
    pure (after, some
      { toSituation := context.toSituation
        routine := name
        answers
        verdict := after.verdict })

/-! Routines that do the same in every call, and what they find out. -/

/-- A request in view of what the routine is called with. -/
abbrev Action := Situation → Request

namespace Action

def deny : Action := fun _ => .deny

def taint : Action := fun _ => .setTainted true

def clearTaint : Action := fun _ => .setTainted false

def forget : Action := fun situation => .table (.delete situation.process.pid)

def snapshot : Action := fun _ => .read

def live : Action := fun situation => .table (.lookup situation.process.pid)

def verdict : Action := fun _ => .verdict

end Action

def Routine.script (name : String) (actions : List Action) : Routine :=
  .custom name fun _ situation => .ofRequests (actions.map (· situation))

inductive Finding where
  | mode (mode : Mode)
  | changed (changed : Bool)
  | process (process : Option ProcessState)
  | verdict (verdict : Verdict)
  deriving DecidableEq, Repr

def Answer.finding? : Answer → Option Finding
  | situation current => some (.process (some current.process))
  | mode applied => some (.mode applied)
  | changed present => some (.changed present)
  | verdict current => some (.verdict current)
  | table (.record process) => some (.process process)
  | written | table _ => none

def ScriptRun.findings (run : ScriptRun) : List Finding :=
  run.answers.filterMap Answer.finding?

end Confinement
