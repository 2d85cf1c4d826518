import Confinement.Proofs.Engine.Denials

/-! An engine that enforces and one that only audits, side by side.

The two differ in what they report and whom they kill, and in nothing else: given the same operations,
they take the same decisions and come to the same tables. What the one puts on the enforcement channel,
the other puts on the channel for what would have been enforced.
-/

set_option autoImplicit false

namespace Confinement

def Channel.opposite : Channel → Channel
  | processCreate => processCreate
  | enforcement => wouldHaveEnforced
  | wouldHaveEnforced => enforcement

def Operation.opposite : Operation → Operation
  | drain channel => drain channel.opposite
  | operation => operation

def Verdict.audited : Verdict → Verdict
  | allowed => allowed
  | denied _ => denied .audit

def OpenOutcome.audited : OpenOutcome → OpenOutcome
  | dispatched index verdict => dispatched index verdict.audited
  | outcome => outcome

def Response.audited : Response → Response
  | outcome (.opened result) => outcome (.opened result.audited)
  | response => response

def Answer.audited : Answer → Answer
  | mode _ => mode .audit
  | verdict current => verdict current.audited
  | answer => answer

def ScriptRun.audited (run : ScriptRun) : ScriptRun :=
  { run with answers := run.answers.map .audited, verdict := run.verdict.audited }

/-- Equal results are answered alike, if no answer of the kind tells of an open call. -/
theorem Response.ofResult_audited {α : Type} {make : α → Response}
    (plain : ∀ value, (make value).audited = make value) {first second : Except Error α}
    (same : second = first) : ofResult make second = (ofResult make first).audited := by
  subst same
  cases second with
  | error error => rfl
  | ok value => exact (plain value).symm

theorem Response.audited_tracked (answer : Except Error ProcessState) :
    (ofResult outcome (answer.map .tracked)).audited = ofResult outcome (answer.map .tracked) := by
  cases answer <;> rfl

@[simp] theorem Channel.opposite_inj {first second : Channel} :
    first.opposite = second.opposite ↔ first = second := by
  cases first <;> cases second <;> simp [opposite]

/-! ## Reporters -/

namespace Reporter

structure Mirrored (enforcing audit : Reporter) : Prop where
  enforces : enforcing.mode = .enforcing
  audits : audit.mode = .audit
  denials : audit.denials = enforcing.denials
  capacity : audit.bus.capacity = enforcing.bus.capacity
  queues : ∀ channel, audit.bus.queue channel.opposite = enforcing.bus.queue channel
  idle : enforcing.bus.queue .wouldHaveEnforced = .empty
  harmless : audit.requested = []

variable {enforcing audit : Reporter}

theorem Mirrored.enforced (mirrored : enforcing.Mirrored audit) (report : Report) :
    (enforcing.enforced report).Mirrored (audit.enforced report) where
  enforces := by rw [mode_enforced, mirrored.enforces]
  audits := by rw [mode_enforced, mirrored.audits]
  denials := congrArg (· + 1) mirrored.denials
  capacity := by simp [mirrored.capacity]
  queues channel := by
    have opposite : channelOf .audit = (channelOf .enforcing).opposite := rfl
    rw [queue_enforced, queue_enforced, mirrored.enforces, mirrored.audits, opposite,
      mirrored.queues, mirrored.capacity]
    simp
  idle := by
    rw [queue_enforced, mirrored.enforces]
    exact mirrored.idle
  harmless := by
    rw [requested_enforced, mirrored.harmless, mirrored.audits]
    rfl

theorem Mirrored.drain (mirrored : enforcing.Mirrored audit) (channel : Channel) :
    Mirrored { enforcing with bus := (enforcing.bus.drain channel).1 }
      { audit with bus := (audit.bus.drain channel.opposite).1 } where
  enforces := mirrored.enforces
  audits := mirrored.audits
  denials := mirrored.denials
  capacity := by simp [mirrored.capacity]
  queues other := by simp [Bus.queue_drain, mirrored.queues]
  idle := by
    rw [Bus.queue_drain, mirrored.idle]
    by_cases same : Channel.wouldHaveEnforced = channel
    · rw [if_pos same, ← same, mirrored.idle]
      rfl
    · rw [if_neg same]
  harmless := mirrored.harmless

theorem mirrored_new (capacity : Nat) (first second : Terminator) :
    Mirrored (new .enforcing capacity first) (new .audit capacity second) where
  enforces := rfl
  audits := rfl
  denials := rfl
  capacity := rfl
  queues channel := by simp [new]
  idle := rfl
  harmless := rfl

end Reporter

/-! ## Routines -/

def Script.IsImpartial : Script → Prop
  | done => True
  | ask _ next => ∀ answer, next answer = next answer.audited ∧ (next answer).IsImpartial

/-- The routine makes the same requests whatever mode it is told of, in the call or in earlier ones. -/
def Routine.IsImpartial (routine : Routine) : Prop :=
  ∀ memory situation,
    routine.conduct memory situation = routine.conduct (memory.map .audited) situation ∧
      (routine.conduct memory situation).IsImpartial

theorem Script.isImpartial_ofRequests (requests : List Request) :
    (ofRequests requests).IsImpartial := by
  induction requests with
  | nil => trivial
  | cons request rest ih => exact fun _ => ⟨rfl, ih⟩

theorem RoutineSpec.isImpartial (spec : RoutineSpec) : (Routine.described spec).IsImpartial :=
  fun _ situation => ⟨rfl, Script.isImpartial_ofRequests (spec.requests situation)⟩

inductive Context.Mirrored : Context → Context → Prop where
  | intro {situation : Situation} {processes : ProcessTable} {enforcing audit : Reporter}
      {verdict : Verdict} {memory : List ScriptRun} (reporters : enforcing.Mirrored audit) :
      Mirrored ⟨situation, processes, enforcing, verdict, memory⟩
        ⟨situation, processes, audit, verdict.audited, memory.map .audited⟩

namespace Context.Mirrored

variable {enforcing audit : Context}

theorem verdict (mirrored : enforcing.Mirrored audit) :
    audit.verdict = enforcing.verdict.audited := by
  obtain ⟨_⟩ := mirrored
  rfl

theorem setTainted (mirrored : enforcing.Mirrored audit) (tainted : Bool) :
    (enforcing.setTainted tainted).1.Mirrored (audit.setTainted tainted).1 ∧
      (audit.setTainted tainted).2 = (enforcing.setTainted tainted).2 := by
  obtain ⟨reporters⟩ := mirrored
  unfold Context.setTainted
  dsimp only
  split
  · exact ⟨⟨reporters⟩, rfl⟩
  · exact ⟨⟨reporters⟩, rfl⟩

theorem perform (mirrored : enforcing.Mirrored audit) (request : Request) :
    (request.perform enforcing).value.1.Mirrored (request.perform audit).value.1 ∧
      (request.perform audit).value.2 = (request.perform enforcing).value.2.audited := by
  cases request with
  | deny =>
    obtain ⟨reporters⟩ := mirrored
    simp only [Request.perform, Logged.value_bind, Logged.value_pure, Context.value_deny,
      reporters.enforces, reporters.audits]
    exact ⟨⟨reporters.enforced _⟩, rfl⟩
  | setTainted tainted =>
    obtain ⟨set, changed⟩ := mirrored.setTainted tainted
    exact ⟨set, congrArg Answer.changed changed⟩
  | read | write | verdict | table =>
    obtain ⟨reporters⟩ := mirrored
    exact ⟨⟨reporters⟩, rfl⟩

theorem runScript {script : Script} (impartial : script.IsImpartial)
    (mirrored : enforcing.Mirrored audit) :
    (script.run enforcing).value.1.Mirrored (script.run audit).value.1 ∧
      (script.run audit).value.2 = (script.run enforcing).value.2.map .audited := by
  induction script generalizing enforcing audit with
  | done => exact ⟨mirrored, rfl⟩
  | ask request next ih =>
    obtain ⟨performed, answer⟩ := mirrored.perform request
    obtain ⟨same, rest⟩ := impartial (request.perform enforcing).value.2
    obtain ⟨later, answers⟩ := ih _ rest performed
    -- The script is told of another mode, and goes on as it did.
    rw [same, ← answer] at later answers
    simp only [Script.run, Logged.value_bind, Logged.value_pure, List.map_cons]
    rw [same, ← answer]
    exact ⟨later, congrArg₂ List.cons rfl answers⟩

theorem run {routine : Routine} (impartial : routine.IsImpartial)
    (mirrored : enforcing.Mirrored audit) :
    (routine.run enforcing).value.1.Mirrored (routine.run audit).value.1 ∧
      (routine.run audit).value.2 = (routine.run enforcing).value.2.map .audited := by
  have same : routine.scriptIn audit = routine.scriptIn enforcing := by
    obtain ⟨_⟩ := mirrored
    exact (impartial _ _).1.symm
  obtain ⟨later, answers⟩ := mirrored.runScript (impartial enforcing.memory enforcing.toSituation).2
  rw [Routine.record_run, Routine.record_run, Routine.value_run, Routine.value_run, same]
  refine ⟨later, ?_⟩
  cases routine with
  | described spec => rfl
  | custom name script =>
    have verdict := later.verdict
    have situation : audit.toSituation = enforcing.toSituation := by
      obtain ⟨_⟩ := mirrored
      rfl
    have follows : script audit.memory audit.toSituation =
        script enforcing.memory enforcing.toSituation := same
    simp only [Routine.record, Option.map_some, ScriptRun.audited, Option.some.injEq,
      ScriptRun.mk.injEq, true_and, follows]
    exact ⟨situation, answers, verdict⟩

end Context.Mirrored

/-- The routine leaves the task alone in what it was called with. -/
def Routine.KeepsTask (routine : Routine) : Prop :=
  routine.Within fun situation request => ∀ written, request = .write written → written.task = situation.task

theorem Request.task_perform {request : Request} {context : Context}
    (keeps : ∀ written, request = .write written → written.task = context.task) :
    (request.perform context).value.1.task = context.task := by
  cases request with
  | write written => exact keeps written rfl
  | setTainted tainted =>
    change (context.setTainted tainted).1.task = context.task
    unfold Context.setTainted
    dsimp only
    split <;> rfl
  | read | deny | verdict | table => rfl

theorem Script.task_of_reports {script : Script} {context : Context}
    (keeps : script.Within fun request => ∀ written, request = .write written →
      written.task = context.task) : ∀ report ∈ script.reports context, report.task = context.task := by
  induction script generalizing context with
  | done => nofun
  | ask request next ih =>
    have same := request.task_perform keeps.1
    intro report member
    rw [reports] at member
    rcases List.mem_append.mp member with heard | later
    · cases request with
      | deny => rw [List.mem_singleton.mp heard, Context.report]
      | _ => cases heard
    · exact (ih _ (same.symm ▸ keeps.2 _) report later).trans same

/-! ## Engines -/

namespace Engine

inductive Mirrored : Engine → Engine → Prop where
  | intro {settings others : Config} {tracker : Tracker} {dispatch : DispatchTable} {slot : OpenSlot}
      {enforcing audit : Reporter} {runs : List ScriptRun} (reporters : enforcing.Mirrored audit) :
      Mirrored ⟨settings, tracker, dispatch, enforcing, slot, runs⟩
        ⟨others, tracker, dispatch, audit, slot, runs.map .audited⟩

structure Matched {α : Type} (first second : Engine × α) : Prop where
  engines : first.1.Mirrored second.1
  answers : second.2 = first.2

variable {first second : Engine}

namespace Mirrored

theorem tables (mirrored : first.Mirrored second) :
    second.processes = first.processes ∧ second.profiles = first.profiles ∧
      second.dispatch = first.dispatch ∧ second.slot = first.slot ∧
      first.reporter.Mirrored second.reporter := by
  obtain ⟨reporters⟩ := mirrored
  exact ⟨rfl, rfl, rfl, rfl, reporters⟩

theorem addProfile (mirrored : first.Mirrored second) (key : ProfileKey) (index : UInt32) :
    Matched (first.addProfile key index).value (second.addProfile key index).value := by
  obtain ⟨reporters⟩ := mirrored
  unfold Engine.addProfile Engine.profiles
  dsimp only
  split
  · exact ⟨⟨reporters⟩, rfl⟩
  · split
    · exact ⟨⟨reporters⟩, rfl⟩
    · simp only [Logged.value_bind, Table.value_put]
      split
      · exact ⟨⟨reporters⟩, rfl⟩
      · exact ⟨⟨reporters⟩, rfl⟩

theorem addProfileForPath (mirrored : first.Mirrored second) (files : Files) (path : String)
    (index : UInt32) :
    Matched (first.addProfileForPath files path index).value
      (second.addProfileForPath files path index).value := by
  unfold Engine.addProfileForPath
  cases files.executable path true with
  | error error => exact ⟨mirrored, rfl⟩
  | ok executable => exact mirrored.addProfile executable.profileKey index

theorem registerRoutine (mirrored : first.Mirrored second) (index : UInt32) (routine : Routine) :
    Matched (first.registerRoutine index routine).value
      (second.registerRoutine index routine).value := by
  obtain ⟨reporters⟩ := mirrored
  exact ⟨⟨reporters⟩, rfl⟩

theorem install (mirrored : first.Mirrored second) (key : ProfileKey) (index : UInt32)
    (routine : Routine) :
    Matched (first.install key index routine).value (second.install key index routine).value := by
  obtain ⟨registered, answer⟩ := mirrored.registerRoutine index routine
  rw [Engine.install, Engine.install, Logged.value_bind, Logged.value_bind]
  dsimp only
  rw [answer]
  cases (first.registerRoutine index routine).value.2 with
  | error error => exact ⟨registered, rfl⟩
  | ok _ => exact registered.addProfile key index

theorem enterOpen (mirrored : first.Mirrored second) (task : Task) (flags : OpenFlags) :
    Matched (first.enterOpen task flags).value (second.enterOpen task flags).value := by
  obtain ⟨reporters⟩ := mirrored
  unfold Engine.enterOpen Engine.processes
  dsimp only
  split
  · exact ⟨⟨reporters⟩, rfl⟩
  · exact ⟨⟨reporters⟩, rfl⟩

inductive Resolved : Resolution → Resolution → Prop where
  | passed {outcome : OpenOutcome} (undecided : outcome.audited = outcome) :
      Resolved (.passed outcome) (.passed outcome)
  | called {routine : Routine} {context audit : Context} (impartial : routine.IsImpartial)
      (contexts : context.Mirrored audit) (index : audit.profile.index = context.profile.index) :
      Resolved (.called routine context) (.called routine audit)

theorem resolveOpen (mirrored : first.Mirrored second)
    (impartial : first.dispatch.Each Routine.IsImpartial) (task : Task) :
    (first.resolveOpen task).value.1.Mirrored (second.resolveOpen task).value.1 ∧
      Resolved (first.resolveOpen task).value.2 (second.resolveOpen task).value.2 := by
  obtain ⟨reporters⟩ := mirrored
  unfold Engine.resolveOpen Engine.processes Engine.profiles
  dsimp only
  split
  · exact ⟨⟨reporters⟩, .passed rfl⟩
  · split
    · split
      · exact ⟨⟨reporters⟩, .passed rfl⟩
      · split
        · exact ⟨⟨reporters⟩, .passed rfl⟩
        · next registered =>
          exact ⟨⟨reporters⟩, .called (impartial _ _ registered) ⟨reporters⟩ rfl⟩
    · exact ⟨⟨reporters⟩, .passed rfl⟩

theorem runRoutine (mirrored : first.Mirrored second) {routine : Routine}
    (impartial : routine.IsImpartial) {context audit : Context} (contexts : context.Mirrored audit) :
    (first.runRoutine routine context).value.1.Mirrored (second.runRoutine routine audit).value.1 ∧
      (second.runRoutine routine audit).value.2 =
        (first.runRoutine routine context).value.2.audited := by
  obtain ⟨later, report⟩ := contexts.run impartial
  obtain ⟨_⟩ := mirrored
  simp only [Engine.runRoutine, Logged.value_bind, Logged.value_pure]
  rw [report]
  generalize (routine.run context).value = result at later ⊢
  generalize (routine.run audit).value.1 = others at later
  obtain ⟨after, record⟩ := result
  obtain ⟨reporters⟩ := later
  have runs : ∀ earlier : List ScriptRun,
      earlier.map ScriptRun.audited ++ (record.map ScriptRun.audited).toList =
        (earlier ++ record.toList).map ScriptRun.audited := by
    cases record <;> simp
  rw [runs]
  exact ⟨⟨reporters⟩, rfl⟩

theorem exitOpen (mirrored : first.Mirrored second)
    (impartial : first.dispatch.Each Routine.IsImpartial) (task : Task) :
    (first.exitOpen task).value.1.Mirrored (second.exitOpen task).value.1 ∧
      (second.exitOpen task).value.2 = (first.exitOpen task).value.2.audited := by
  obtain ⟨resolved, same⟩ := mirrored.resolveOpen impartial task
  rw [value_exitOpen, value_exitOpen]
  generalize (first.resolveOpen task).value = result at resolved same
  generalize (second.resolveOpen task).value = other at resolved same
  obtain ⟨later, resolution⟩ := result
  obtain ⟨others, resolution⟩ := other
  cases same with
  | passed undecided => exact ⟨resolved, undecided.symm⟩
  | called impartial contexts index =>
    obtain ⟨left, verdict⟩ := resolved.runRoutine impartial contexts
    exact ⟨left, congrArg₂ OpenOutcome.dispatched index verdict⟩

theorem perform (mirrored : first.Mirrored second)
    (impartial : first.dispatch.Each Routine.IsImpartial) {operation : Operation}
    (unset : operation.mode? = none) :
    (first.next operation).Mirrored (second.next operation.opposite) ∧
      (second.perform operation.opposite).value.2 = (first.perform operation).value.2.audited := by
  cases operation with
  | event event =>
    cases event with
    | processCreate parent child group =>
      obtain ⟨reporters⟩ := mirrored
      exact ⟨⟨reporters⟩, (Response.audited_tracked _).symm⟩
    | programLoad | processExit =>
      obtain ⟨reporters⟩ := mirrored
      exact ⟨⟨reporters⟩, rfl⟩
    | openEntry task flags =>
      obtain ⟨entered, answer⟩ := mirrored.enterOpen task flags
      exact ⟨entered, congrArg (Response.outcome ∘ Outcome.captured) answer⟩
    | openExit task =>
      obtain ⟨left, answer⟩ := mirrored.exitOpen impartial task
      exact ⟨left, congrArg (Response.outcome ∘ Outcome.opened) answer⟩
  | addProfile key index =>
    obtain ⟨added, answer⟩ := mirrored.addProfile key index
    exact ⟨added, Response.ofResult_audited (fun _ => rfl) answer⟩
  | addProfileForPath files path index =>
    obtain ⟨added, answer⟩ := mirrored.addProfileForPath files path index
    exact ⟨added, Response.ofResult_audited (fun _ => rfl) answer⟩
  | install key index routine =>
    obtain ⟨added, answer⟩ := mirrored.install key index routine
    exact ⟨added, Response.ofResult_audited (fun _ => rfl) answer⟩
  | registerRoutine index routine =>
    obtain ⟨registered, answer⟩ := mirrored.registerRoutine index routine
    exact ⟨registered, Response.ofResult_audited (fun _ => rfl) answer⟩
  | removeProfile | unregisterRoutine =>
    obtain ⟨reporters⟩ := mirrored
    exact ⟨⟨reporters⟩, rfl⟩
  | drain channel =>
    obtain ⟨reporters⟩ := mirrored
    refine ⟨⟨reporters.drain channel⟩, ?_⟩
    exact congrArg (Response.events ∘ Queue.pending) (reporters.queues channel)
  | setMode => cases unset

theorem run (mirrored : first.Mirrored second)
    (impartial : first.dispatch.Each Routine.IsImpartial) {operations : List Operation}
    (registers : ∀ operation ∈ operations, operation.Registers Routine.IsImpartial)
    (unset : ∀ operation ∈ operations, operation.mode? = none) :
    (first.after operations).Mirrored (second.after (operations.map .opposite)) ∧
      (second.run (operations.map .opposite)).value.2 =
        (first.run operations).value.2.map .audited := by
  induction operations generalizing first second with
  | nil => exact ⟨mirrored, rfl⟩
  | cons operation rest ih =>
    obtain ⟨own, others⟩ := List.forall_mem_cons.mp unset
    obtain ⟨named, registers⟩ := List.forall_mem_cons.mp registers
    obtain ⟨next, answer⟩ := mirrored.perform impartial own
    obtain ⟨later, answers⟩ := ih next (each_next impartial named) registers others
    refine ⟨later, ?_⟩
    simp only [List.map_cons, Engine.run, Logged.value_bind, Logged.value_pure, List.cons.injEq]
    exact ⟨answer, answers⟩

end Mirrored

/-! ## Runs -/

theorem mirrored_initial (config : Config) (terminator other : Terminator)
    (assignments : Assignments) :
    Mirrored (initial { config with mode := .enforcing } terminator assignments)
      (initial { config with mode := .audit } other assignments) :=
  .intro (Reporter.mirrored_new config.channelCapacity terminator other)

/-- An engine that enforces all along asks for the caller to be killed at each denial. -/
theorem requested_after {start : Engine} (enforces : start.mode = .enforcing)
    {operations : List Operation} (unset : ∀ operation ∈ operations, operation.mode? = none) :
    (start.after operations).reporter.requested =
      start.reporter.requested ++ (start.reported operations).map Report.task := by
  induction operations using List.reverseRecOn with
  | nil => exact (List.append_nil _).symm
  | append_singleton earlier operation ih =>
    have before := (List.forall_mem_append.mp unset).1
    have still : (start.after earlier).mode = .enforcing := by
      rw [mode_after, modeInForce, List.filterMap_eq_nil_iff.mpr before]
      exact enforces
    have tasks : ((start.after earlier).reports operation).flatMap
          (fun report => Mode.enforcing.targets report.task) =
        ((start.after earlier).reports operation).map Report.task := List.map_eq_flatMap.symm
    rw [after_concat, requested_next, ih before, reported_concat, still, tasks, List.map_append,
      List.append_assoc]

/-- What the reporter hears of is the call of the caller, as long as routines leave the task alone. -/
theorem own_reports {engine : Engine} {operation : Operation}
    (keep : engine.dispatch.Each Routine.KeepsTask) :
    ∀ report ∈ engine.reports operation, operation = .event (.openExit report.task) := by
  intro report member
  have heard := engine.heard_next operation
  generalize engine.reports operation = reports at heard member
  generalize engine.denial? operation = denied at heard
  cases heard with
  | silent => cases member
  | @denied task process profile routine _ _ _ _ registered heard _ =>
    subst heard
    have kept := keep _ _ registered engine.scriptRuns
      (engine.contextOf task process profile).toSituation
    rw [Script.task_of_reports kept report member]
    rfl

/-- What an engine that enforces and one that audits have in common after the same operations. -/
structure Agree (enforcing audit : Engine) (operations : List Operation) : Prop where
  answers : (audit.run (operations.map .opposite)).value.2 =
    (enforcing.run operations).value.2.map .audited
  processes : (audit.after (operations.map .opposite)).processes =
    (enforcing.after operations).processes
  profiles : (audit.after (operations.map .opposite)).profiles =
    (enforcing.after operations).profiles
  dispatch : (audit.after (operations.map .opposite)).dispatch =
    (enforcing.after operations).dispatch
  slot : (audit.after (operations.map .opposite)).slot = (enforcing.after operations).slot
  denials : (audit.after (operations.map .opposite)).reporter.denials =
    (enforcing.after operations).reporter.denials
  queues : (audit.after (operations.map .opposite)).bus.queue .wouldHaveEnforced =
    (enforcing.after operations).bus.queue .enforcement
  idle : (enforcing.after operations).bus.queue .wouldHaveEnforced = .empty ∧
    (audit.after (operations.map .opposite)).bus.queue .enforcement = .empty
  heard : ∀ moment ∈ moments operations,
    (enforcing.after moment.past).Heard moment.operation
      ((enforcing.after moment.past).reports moment.operation)
      ((enforcing.after moment.past).denial? moment.operation)
  counted : (enforcing.after operations).reporter.denials =
    .ofNat (enforcing.reported operations).length
  requested : (enforcing.after operations).reporter.requested =
    (enforcing.reported operations).map Report.task
  own : (∀ operation ∈ operations, operation.Registers Routine.KeepsTask) →
    ∀ moment ∈ moments operations, ∀ report ∈ (enforcing.after moment.past).reports moment.operation,
      moment.operation = .event (.openExit report.task)
  once : (∀ operation ∈ operations, operation.isDescribed = true) →
    (enforcing.after operations).reporter.requested =
      (enforcing.denials operations).map Denial.task
  harmless : (audit.after (operations.map .opposite)).reporter.requested = []

/-- As long as the mode is not set and no routine heeds it, an engine that audits does what one does that
enforces, whatever becomes of the requests to kill: it only reports elsewhere, and asks for nobody to be
killed. -/
theorem agree_after {config : Config} {terminator other : Terminator} {assignments : Assignments}
    {enforcing audit : Engine}
    (built : (build { config with mode := .enforcing } terminator assignments).value = .ok enforcing)
    (rebuilt : (build { config with mode := .audit } other assignments).value = .ok audit)
    {operations : List Operation} (unset : ∀ operation ∈ operations, operation.mode? = none)
    (impartial : ∀ operation ∈ operations, operation.Registers Routine.IsImpartial) :
    enforcing.Agree audit operations := by
  have first := eq_initial_of_build built
  have second := eq_initial_of_build rebuilt
  have mirrored : enforcing.Mirrored audit := by
    rw [first, second]
    exact mirrored_initial config terminator other assignments
  have enforces : enforcing.mode = .enforcing := by
    rw [first]
    rfl
  have none : enforcing.reporter.requested = [] ∧ enforcing.reporter.denials = 0 := by
    rw [first]
    exact ⟨rfl, rfl⟩
  obtain ⟨later, answers⟩ := mirrored.run (each_of_build built _) impartial unset
  obtain ⟨processes, profiles, dispatch, slot, reporters⟩ := later.tables
  have requested : (enforcing.after operations).reporter.requested =
      (enforcing.reported operations).map Report.task := by
    rw [requested_after enforces unset, none.1, List.nil_append]
  constructor
  case answers => exact answers
  case processes => exact processes
  case profiles => exact profiles
  case dispatch => exact dispatch
  case slot => exact slot
  case denials => exact reporters.denials
  case queues => exact reporters.queues .enforcement
  case idle => exact ⟨reporters.idle, (reporters.queues .wouldHaveEnforced).trans reporters.idle⟩
  case heard => exact fun moment _ => (enforcing.after moment.past).heard_next moment.operation
  case counted => rw [denials_after, none.2, UInt64.zero_add]
  case requested => exact requested
  case own =>
    intro keep moment member report heard
    exact own_reports (each_at (each_of_build built _) keep member) report heard
  case once =>
    intro plain
    rw [requested, reported_eq built plain, List.map_map]
    rfl
  case harmless => exact reporters.harmless

/-- A call that both engines deny, though the request to kill its caller fails. -/
theorem agree_after_denial :
    (pair.after (confinedRun (.described .denyAll))).bus.pending .wouldHaveEnforced =
        [⟨7, 7, Executable.profileKey ⟨0, 5⟩⟩] ∧
      (initial ⟨2, 2, 1, .enforcing, .perThread, 1⟩ .failing .direct).Agree pair
        (confinedRun (.described .denyAll)) :=
  ⟨by decide +kernel, @agree_after ⟨2, 2, 1, .audit, .perThread, 1⟩ .failing .recording .direct _ _ rfl
    build_pair _ (by decide) (registers_confinedRun RoutineSpec.denyAll.isImpartial)⟩

/-- A routine that taints its caller where it learns that the denial is not enforced. -/
def lenient : Routine :=
  .custom "lenient" fun _ _ => .ask .deny fun
    | .mode .audit => .ask (.setTainted true) fun _ => .done
    | _ => .done

/-- A routine that heeds the mode makes the tables differ, and one that denies a call twice has its caller
killed twice. -/
theorem not_agree_of_lenient :
    (¬ ∀ (config : Config) (terminator other : Terminator) (assignments : Assignments)
      (enforcing audit : Engine) (operations : List Operation),
      (build { config with mode := .enforcing } terminator assignments).value = .ok enforcing →
      (build { config with mode := .audit } other assignments).value = .ok audit →
      (∀ operation ∈ operations, operation.mode? = none) →
      (audit.after (operations.map .opposite)).processes = (enforcing.after operations).processes) ∧
    ¬ ∀ (config : Config) (terminator : Terminator) (assignments : Assignments) (enforcing : Engine)
      (operations : List Operation),
      (build { config with mode := .enforcing } terminator assignments).value = .ok enforcing →
      (∀ operation ∈ operations, operation.mode? = none) →
      (enforcing.after operations).reporter.requested =
        (enforcing.denials operations).map Denial.task := by
  let enforcing := initial ⟨2, 2, 1, .enforcing, .perThread, 1⟩ .recording .direct
  constructor
  · intro claim
    have same := congrArg (Table.find? · 7) (claim ⟨2, 2, 1, .audit, .perThread, 1⟩ .recording .recording
      .direct enforcing pair (confinedRun lenient) rfl build_pair (by decide))
    revert same
    decide +kernel
  · intro claim
    have once := claim ⟨2, 2, 1, .enforcing, .perThread, 1⟩ .recording .direct enforcing
      (confinedRun (.script "insistent" [.deny, .deny])) rfl (by decide)
    revert once
    decide +kernel

end Engine

end Confinement
