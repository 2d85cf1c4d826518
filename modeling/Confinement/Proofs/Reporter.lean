import Confinement.Proofs.Bus
import Confinement.Proofs.Routine

/-! What routines do to the state of enforcement.

A routine denies a call some number of times, and does nothing else to the reporter. Each denial does
the same: it counts, it asks for the caller to be killed if it is to be enforced, and it submits an
event to the channel of its mode. Of all this a routine is told the mode alone.
-/

set_option autoImplicit false

namespace Confinement

structure Report where
  task : Task
  event : Event
  deriving DecidableEq, Repr

/-- Whom a denial in the mode asks to be killed. -/
def Mode.targets (mode : Mode) (task : Task) : List Task :=
  match mode with
  | .enforcing => [task]
  | .audit => []

def Terminator.Steady (terminator : Terminator) : Prop :=
  ∀ count other task, terminator.refusal count task = terminator.refusal other task

theorem Terminator.steady_recording : recording.Steady := fun _ _ _ => rfl

namespace Reporter

def requesting (reporter : Reporter) (task : Task) : Reporter :=
  match reporter.mode with
  | .enforcing => (reporter.terminate task).value
  | .audit => reporter

def enforced (reporter : Reporter) (report : Report) : Reporter :=
  { reporter.requesting report.task with
    denials := reporter.denials + 1
    bus := (reporter.bus.submit (channelOf reporter.mode) report.event).1 }

theorem value_terminate (reporter : Reporter) (task : Task) :
    (reporter.terminate task).value =
      { reporter with
        requested := reporter.requested ++ [task]
        killed := reporter.killed ++
          if (reporter.terminator.refusal reporter.requested.length task).isSome then []
          else [task] } := by
  unfold terminate
  cases reporter.terminator.refusal reporter.requested.length task <;> simp

theorem value_enforce (reporter : Reporter) (task : Task) (process : ProcessState)
    (profile : Profile) :
    (reporter.enforce task process profile).value =
      (reporter.enforced ⟨task, eventOf task process⟩, reporter.mode) := by
  unfold enforce enforced requesting
  cases mode : reporter.mode with
  | enforcing => simp [submit, value_terminate, mode]
  | audit => simp [submit, mode]

@[simp] theorem mode_enforced (reporter : Reporter) (report : Report) :
    (reporter.enforced report).mode = reporter.mode := by
  unfold enforced requesting
  split <;> simp [value_terminate]

@[simp] theorem terminator_enforced (reporter : Reporter) (report : Report) :
    (reporter.enforced report).terminator = reporter.terminator := by
  unfold enforced requesting
  split <;> simp [value_terminate]

@[simp] theorem denials_enforced (reporter : Reporter) (report : Report) :
    (reporter.enforced report).denials = reporter.denials + 1 := rfl

@[simp] theorem bus_enforced (reporter : Reporter) (report : Report) :
    (reporter.enforced report).bus =
      (reporter.bus.submit (channelOf reporter.mode) report.event).1 := rfl

theorem queue_enforced (reporter : Reporter) (report : Report) (channel : Channel) :
    (reporter.enforced report).bus.queue channel =
      if channel = channelOf reporter.mode then
        (reporter.bus.queue channel).offered reporter.bus.capacity report.event
      else reporter.bus.queue channel := by
  rw [bus_enforced, Bus.queue_submit]
  by_cases same : channel = channelOf reporter.mode <;> simp [same]

theorem requested_enforced (reporter : Reporter) (report : Report) :
    (reporter.enforced report).requested =
      reporter.requested ++ reporter.mode.targets report.task := by
  unfold enforced requesting
  cases mode : reporter.mode <;> simp [Mode.targets, value_terminate]

/-- A task that was to be killed is killed if the terminator grants the request. -/
theorem killed_enforced_of_steady {reporter : Reporter} (steady : reporter.terminator.Steady)
    (report : Report) :
    (reporter.enforced report).killed = reporter.killed ++
      (reporter.mode.targets report.task).filter fun task =>
        (reporter.terminator.refusal 0 task).isNone := by
  unfold enforced requesting
  cases mode : reporter.mode with
  | audit => simp [Mode.targets]
  | enforcing =>
    rw [value_terminate, steady reporter.requested.length 0]
    cases answer : reporter.terminator.refusal 0 report.task <;> simp [Mode.targets, answer]

theorem killed_enforced {reporter : Reporter} (recording : reporter.terminator = .recording)
    (report : Report) :
    (reporter.enforced report).killed = reporter.killed ++ reporter.mode.targets report.task := by
  rw [killed_enforced_of_steady (recording ▸ Terminator.steady_recording), recording]
  simp [Terminator.recording]

structure Denied (before : Reporter) (task : Task) (event : Event) (after : Reporter) : Prop where
  denials : after.denials = before.denials + 1
  submitted : after.bus = (before.bus.submit (channelOf before.mode) event).1
  requested : after.requested = before.requested ++ before.mode.targets task
  killed : after.killed = before.killed ++ (before.mode.targets task).filter fun task =>
    (before.terminator.refusal before.requested.length task).isNone
  mode : after.mode = before.mode
  terminator : after.terminator = before.terminator

theorem denied_enforced (reporter : Reporter) (report : Report) :
    reporter.Denied report.task report.event (reporter.enforced report) where
  denials := reporter.denials_enforced report
  submitted := reporter.bus_enforced report
  requested := reporter.requested_enforced report
  killed := by
    unfold enforced requesting
    cases mode : reporter.mode with
    | audit => simp [Mode.targets]
    | enforcing =>
      rw [value_terminate]
      cases answer : reporter.terminator.refusal reporter.requested.length report.task <;>
        simp [Mode.targets, answer]
  mode := reporter.mode_enforced report
  terminator := reporter.terminator_enforced report

@[simp] theorem mode_enforcedAll (reporter : Reporter) (reports : List Report) :
    (reports.foldl enforced reporter).mode = reporter.mode := by
  induction reports generalizing reporter with
  | nil => rfl
  | cons report rest ih => simp [ih]

@[simp] theorem terminator_enforcedAll (reporter : Reporter) (reports : List Report) :
    (reports.foldl enforced reporter).terminator = reporter.terminator := by
  induction reports generalizing reporter with
  | nil => rfl
  | cons report rest ih => simp [ih]

theorem denials_enforcedAll (reporter : Reporter) (reports : List Report) :
    (reports.foldl enforced reporter).denials = reporter.denials + .ofNat reports.length := by
  induction reports generalizing reporter with
  | nil => simp
  | cons report rest ih =>
    rw [List.foldl_cons, ih, denials_enforced, List.length_cons, UInt64.ofNat_add,
      UInt64.add_comm (.ofNat _), ← UInt64.add_assoc]
    rfl

theorem requested_enforcedAll (reporter : Reporter) (reports : List Report) :
    (reports.foldl enforced reporter).requested =
      reporter.requested ++ reports.flatMap fun report => reporter.mode.targets report.task := by
  induction reports generalizing reporter with
  | nil => simp
  | cons report rest ih =>
    rw [List.foldl_cons, ih, mode_enforced, requested_enforced, List.flatMap_cons, List.append_assoc]

theorem killed_enforcedAll_of_steady {reporter : Reporter} (steady : reporter.terminator.Steady)
    (reports : List Report) :
    (reports.foldl enforced reporter).killed = reporter.killed ++
      (reports.flatMap fun report => reporter.mode.targets report.task).filter fun task =>
        (reporter.terminator.refusal 0 task).isNone := by
  induction reports generalizing reporter with
  | nil => simp
  | cons report rest ih =>
    have still : (reporter.enforced report).terminator.Steady := by simpa using steady
    rw [List.foldl_cons, ih still, killed_enforced_of_steady steady, mode_enforced,
      terminator_enforced, List.flatMap_cons, List.filter_append, List.append_assoc]

theorem killed_enforcedAll {reporter : Reporter} (recording : reporter.terminator = .recording)
    (reports : List Report) :
    (reports.foldl enforced reporter).killed =
      reporter.killed ++ reports.flatMap fun report => reporter.mode.targets report.task := by
  rw [killed_enforcedAll_of_steady (recording ▸ Terminator.steady_recording), recording]
  simp [Terminator.recording]

theorem carries_enforcedAll {reporter : Reporter} {submitted taken : List Event}
    (carries : (reporter.bus.queue (channelOf reporter.mode)).Carries submitted taken)
    (reports : List Report) :
    ((reports.foldl enforced reporter).bus.queue (channelOf reporter.mode)).Carries
      (submitted ++ reports.map Report.event) taken := by
  induction reports generalizing reporter submitted with
  | nil => simpa using carries
  | cons report rest ih =>
    have first := carries.offered reporter.bus.capacity report.event
    have same := reporter.queue_enforced report (channelOf reporter.mode)
    rw [if_pos rfl] at same
    rw [← same] at first
    have later := @ih (reporter.enforced report) (submitted ++ [report.event])
    rw [mode_enforced] at later
    simpa using later first

theorem queue_enforcedAll {reporter : Reporter} {channel : Channel}
    (other : channel ≠ channelOf reporter.mode) (reports : List Report) :
    (reports.foldl enforced reporter).bus.queue channel = reporter.bus.queue channel := by
  induction reports generalizing reporter with
  | nil => rfl
  | cons report rest ih =>
    have apart : channel ≠ channelOf (reporter.enforced report).mode := by simpa using other
    rw [List.foldl_cons, ih apart, queue_enforced, if_neg other]

theorem channelOf_ne_processCreate (mode : Mode) : channelOf mode ≠ .processCreate := by
  cases mode <;> nofun

end Reporter

/-! ## What a routine reports -/

namespace Context

def report (context : Context) : Report :=
  ⟨context.task, Reporter.eventOf context.task context.process⟩

theorem value_deny (context : Context) :
    context.deny.value =
      ({ context with
          reporter := context.reporter.enforced context.report
          verdict := .denied context.reporter.mode }, context.reporter.mode) := by
  rw [deny, Logged.value_bind, Reporter.value_enforce]
  rfl

theorem setTainted_eq (context : Context) (tainted : Bool) :
    (context.setTainted tainted).1.reporter = context.reporter ∧
      (context.setTainted tainted).1.verdict = context.verdict := by
  unfold setTainted
  dsimp only
  split <;> exact ⟨rfl, rfl⟩

def reporting (context : Context) (reporter : Reporter) (memory : List ScriptRun) : Context :=
  { context with reporter, memory }

theorem setTainted_reporting (context : Context) (reporter : Reporter) (memory : List ScriptRun)
    (tainted : Bool) :
    (context.reporting reporter memory).setTainted tainted =
      ((context.setTainted tainted).1.reporting reporter memory, (context.setTainted tainted).2) := by
  unfold setTainted reporting
  dsimp only
  by_cases present : (context.processes.modify context.process.pid fun record =>
      { record with tainted }).2.isSome = true
  · rw [if_pos present, if_pos present]
  · rw [if_neg present, if_neg present]

def verdictAfter (context : Context) (reports : List Report) : Verdict :=
  if reports = [] then context.verdict else .denied context.reporter.mode

end Context

def Request.reports (request : Request) (context : Context) : List Report :=
  match request with
  | deny => [context.report]
  | _ => []

namespace Request

theorem reporter_perform (request : Request) (context : Context) :
    (request.perform context).value.1.reporter =
      (request.reports context).foldl Reporter.enforced context.reporter := by
  cases request with
  | deny => exact congrArg (fun result => result.1.reporter) context.value_deny
  | setTainted tainted => exact (context.setTainted_eq tainted).1
  | read | write | verdict | table => rfl

theorem verdict_perform (request : Request) (context : Context) :
    (request.perform context).value.1.verdict = context.verdictAfter (request.reports context) := by
  cases request with
  | deny => exact congrArg (fun result => result.1.verdict) context.value_deny
  | setTainted tainted => exact (context.setTainted_eq tainted).2
  | read | write | verdict | table => rfl

theorem perform_reporting (request : Request) (context : Context) {reporter : Reporter}
    (mode : reporter.mode = context.reporter.mode) (memory : List ScriptRun) :
    (request.perform (context.reporting reporter memory)).value =
        ((request.perform context).value.1.reporting
          ((request.reports context).foldl Reporter.enforced reporter) memory,
          (request.perform context).value.2) ∧
      request.reports (context.reporting reporter memory) = request.reports context := by
  refine ⟨?_, by cases request <;> rfl⟩
  cases request with
  | deny =>
    simp only [perform, Logged.value_bind, Logged.value_pure, Context.value_deny,
      Context.reporting, mode]
    rfl
  | setTainted tainted =>
    simp only [perform, Logged.value_pure, Context.setTainted_reporting]
    rfl
  | read | write | verdict | table => rfl

end Request

namespace Script

def reports : Script → Context → List Report
  | done, _ => []
  | ask request next, context =>
    let (later, answer) := (request.perform context).value
    request.reports context ++ (next answer).reports later

theorem reporter_run (script : Script) (context : Context) :
    (script.run context).value.1.reporter =
      (script.reports context).foldl Reporter.enforced context.reporter := by
  induction script generalizing context with
  | done => rfl
  | ask request next ih =>
    rw [reports, List.foldl_append, ← request.reporter_perform context]
    exact ih _ _

theorem verdict_run (script : Script) (context : Context) :
    (script.run context).value.1.verdict = context.verdictAfter (script.reports context) := by
  induction script generalizing context with
  | done => rfl
  | ask request next ih =>
    have first := request.verdict_perform context
    have mode : (request.perform context).value.1.reporter.mode = context.reporter.mode := by
      rw [request.reporter_perform, Reporter.mode_enforcedAll]
    refine (ih _ (request.perform context).value.1).trans ?_
    rw [reports, Context.verdictAfter, first, mode, Context.verdictAfter, Context.verdictAfter]
    simp only [List.append_eq_nil_iff]
    by_cases quiet : request.reports context = [] <;> simp [quiet]

theorem run_reporting (script : Script) (context : Context) {reporter : Reporter}
    (mode : reporter.mode = context.reporter.mode) (memory : List ScriptRun) :
    (script.run (context.reporting reporter memory)).value =
        ((script.run context).value.1.reporting
          ((script.reports context).foldl Reporter.enforced reporter) memory,
          (script.run context).value.2) ∧
      script.reports (context.reporting reporter memory) = script.reports context := by
  induction script generalizing context reporter with
  | done => exact ⟨rfl, rfl⟩
  | ask request next ih =>
    obtain ⟨performed, heard⟩ := request.perform_reporting context mode memory
    have still : ((request.reports context).foldl Reporter.enforced reporter).mode =
        (request.perform context).value.1.reporter.mode := by
      rw [request.reporter_perform, Reporter.mode_enforcedAll, Reporter.mode_enforcedAll, mode]
    obtain ⟨ran, reports⟩ := ih (request.perform context).value.2 (request.perform context).value.1 still
    constructor
    · simp only [run, Logged.value_bind, Logged.value_pure, performed, ran, Script.reports,
        List.foldl_append]
    · simp only [Script.reports, performed, heard, reports]

end Script

def RoutineSpec.denies (spec : RoutineSpec) (requested : Access) : Bool :=
  match spec with
  | allowAll => false
  | denyAll => true
  | access policy => policy.rule requested = .deny

def Routine.reports (routine : Routine) (context : Context) : List Report :=
  (routine.scriptIn context).reports context

theorem Routine.reporter_run (routine : Routine) (context : Context) :
    (routine.run context).value.1.reporter =
      (routine.reports context).foldl Reporter.enforced context.reporter := by
  rw [value_run]
  exact Script.reporter_run _ context

theorem Routine.verdict_run (routine : Routine) (context : Context) :
    (routine.run context).value.1.verdict = context.verdictAfter (routine.reports context) := by
  rw [value_run]
  exact Script.verdict_run _ context

theorem RoutineSpec.reports_described (spec : RoutineSpec) (context : Context) :
    (Routine.described spec).reports context =
      if spec.denies context.requested then [context.report] else [] := by
  cases spec with
  | allowAll | denyAll => rfl
  | access policy =>
    rw [Routine.reports, Routine.scriptIn, Routine.conduct, requests, denies]
    cases policy.rule context.requested <;> rfl

end Confinement
