import Confinement.Proofs.Engine.Denials
import Confinement.Proofs.Log

/-! The log of decisions.

Where all routines have a description, each denial writes one line that reports it, after a line about
the request to kill if that failed, and nothing else writes a line of either form. So the log tells of
every denial, whatever becomes of its event.
-/

set_option autoImplicit false

namespace Confinement

def Denial.word (denial : Denial) : String :=
  match denial.mode with
  | .enforcing => "ENFORCE"
  | .audit => "AUDIT"

def Denial.line (denial : Denial) : Line :=
  .policy .warn (denial.word ++ s!" pid={denial.task.tid} tid={denial.task.tid} profile=" ++
    denial.key.render ++ s!" routine={denial.index}")

theorem Denial.line_eq (denial : Denial) :
    denial.line = Reporter.decisionLine denial.mode denial.event ⟨denial.key, denial.index⟩ := by
  obtain ⟨_, mode, _, _⟩ := denial
  cases mode <;> rfl

/-- The line names the task twice, its profile by sixteen digits, and the place of the routine. -/
theorem Denial.render_line (denial : Denial) :
    ∃ digits, denial.line.render = "WARN [POLICY] " ++ denial.word ++
        s!" pid={denial.task.tid} tid={denial.task.tid} profile=0x" ++ String.ofList digits ++
        s!" routine={denial.index}" ∧
      digits.length = 16 ∧ (∀ c ∈ digits, c ∈ "0123456789abcdef".toList) ∧
      Text.hexNumber? digits = some denial.key.raw.toNat := by
  obtain ⟨digits, rendered, sixteen, hexadecimal, denoted⟩ := denial.key.render_eq
  refine ⟨digits, ?_, sixteen, hexadecimal, denoted⟩
  rw [Line.render, line, rendered, ← String.toList_inj]
  simp [Line.policy, Level.label, toString]

/-! ## Enforcement -/

namespace Reporter

def refusalLines (reporter : Reporter) (mode : Mode) (task : Task) : List Line :=
  match mode with
  | .enforcing =>
    (reporter.terminator.refusal reporter.requested.length task).toList.map (Line.ofRefusal task)
  | .audit => []

theorem lines_terminate (reporter : Reporter) (task : Task) :
    (reporter.terminate task).lines = reporter.refusalLines .enforcing task := by
  unfold terminate refusalLines
  cases reporter.terminator.refusal reporter.requested.length task <;> rfl

theorem quiet_submit (reporter : Reporter) (channel : Channel) (event : Event) :
    (reporter.submit channel event).Quiet :=
  (Logged.quiet_writeIf (Line.isQuiet_of_hidden (by rfl)) _).bind (Logged.quiet_pure _)

theorem lines_enforce (reporter : Reporter) (task : Task) (process : ProcessState)
    (profile : Profile) :
    ∃ after, (∀ line ∈ after, line.isQuiet = true) ∧
      (reporter.enforce task process profile).lines = reporter.refusalLines reporter.mode task ++
        decisionLine reporter.mode (eventOf task process) profile :: after := by
  let counted := { reporter with denials := reporter.denials + 1 }
  unfold enforce
  cases mode : reporter.mode with
  | enforcing =>
    have submitted := quiet_submit (counted.terminate task).value (channelOf .enforcing)
      (eventOf task process)
    refine ⟨_, submitted, ?_⟩
    have refused := counted.lines_terminate task
    simpa [counted, mode, refusalLines] using refused
  | audit =>
    have submitted := quiet_submit counted (channelOf .audit) (eventOf task process)
    refine ⟨_, submitted, ?_⟩
    simp [counted, mode, refusalLines]

end Reporter

theorem RoutineSpec.quiet_run {spec : RoutineSpec} {context : Context}
    (allows : spec.denies context.requested = false) : (spec.run context).Quiet := by
  cases spec with
  | allowAll => exact Logged.quiet_pure _
  | denyAll => cases allows
  | access policy =>
    rw [run, AccessPolicy.run]
    dsimp only
    cases rule : policy.rule context.requested with
    | allow => exact Logged.quiet_pure _
    | taint =>
      exact (Logged.quiet_writeIf (Line.isQuiet_of_hidden (by rfl)) _).bind (Logged.quiet_pure _)
    | audit =>
      exact (Logged.quiet_write (Line.isQuiet_audit _ _ _)).bind (Logged.quiet_pure _)
    | deny => simp [denies, rule] at allows

theorem RoutineSpec.lines_run {spec : RoutineSpec} {context : Context}
    (denied : spec.denies context.requested = true) :
    (spec.run context).lines =
      (context.reporter.enforce context.task context.process context.profile).lines := by
  cases spec with
  | allowAll => cases denied
  | denyAll => simp [run, Context.deny]
  | access policy =>
    have rule : policy.rule context.requested = .deny := by simpa [denies] using denied
    simp [run, AccessPolicy.run, rule, Context.deny]

namespace Engine

variable {engine start : Engine} {operation : Operation} {task : Task}
  {published : ProfileKey → Prop}

/-! ## One operation -/

theorem lines_runRoutine (engine : Engine) (spec : RoutineSpec) (context : Context) :
    (engine.runRoutine (.described spec) context).lines = (spec.run context).lines := by
  simp [runRoutine, Routine.run]

/-- The exit of an open call writes what its routine writes, besides lines of neither form. -/
theorem lines_exitOpen {process : ProcessState} {profile : Profile} {spec : RoutineSpec}
    (present : engine.processes.find? task.tid = some process)
    (confined : process.isConfined = true)
    (loaded : engine.profiles.find? process.profileKey = some profile)
    (registered : engine.dispatch.get? profile.index = some (.described spec)) :
    ∃ before after, (∀ line ∈ before, line.isQuiet = true) ∧ (∀ line ∈ after, line.isQuiet = true) ∧
      (engine.exitOpen task).lines =
        before ++ ((spec.run (engine.contextOf task process profile)).lines ++ after) := by
  have opening := engine.quiet_resolveOpen task
  have resolved := resolveOpen_registered present confined loaded registered
  rw [exitOpen, Logged.lines_bind, resolved]
  dsimp only
  rw [Logged.lines_bind, lines_runRoutine]
  refine ⟨_, _, opening, ?_, rfl⟩
  refine (Logged.quiet_write (Line.isQuiet_of_hidden (by rfl))).bind ?_
  split
  case h_1 => exact Logged.quiet_pure _
  case h_2 =>
    exact (Logged.quiet_write (Line.isQuiet_of_hidden (by rfl))).bind (Logged.quiet_pure _)

theorem quiet_exitOpen (described : engine.dispatch.Each (·.isDescribed))
    (silent : engine.reports (.event (.openExit task)) = []) : (engine.exitOpen task).Quiet := by
  have resolved := resolved_resolveOpen engine task
  rw [reports] at silent
  cases outcome : (engine.resolveOpen task).value with
  | mk after resolution =>
    have opening := engine.quiet_resolveOpen task
    rw [outcome] at resolved silent
    cases resolved with
    | passed =>
      refine opening.bind ?_
      rw [outcome]
      exact Logged.quiet_pure _
    | consulted =>
      refine opening.bind ?_
      rw [outcome]
      exact Logged.quiet_pure _
    | @called process profile routine present confined loaded registered =>
      have plain := described _ _ registered
      cases routine with
      | custom => cases plain
      | described spec =>
        have allows : spec.denies (engine.contextOf task process profile).requested = false := by
          simpa [spec.reports_described] using silent
        obtain ⟨before, after, first, last, same⟩ :=
          lines_exitOpen present confined loaded registered
        intro line member
        rw [same] at member
        rcases List.mem_append.mp member with inside | inside
        · exact first line inside
        · exact (List.mem_append.mp inside).elim (RoutineSpec.quiet_run allows line) (last line)

/-- The lines of an operation, next to the denial that it answers. -/
inductive Wrote (engine : Engine) : List Line → Option Denial → Prop where
  | quiet {lines : List Line} (quiet : ∀ line ∈ lines, line.isQuiet = true) :
      Wrote engine lines none
  | denied {denial : Denial} {before after : List Line}
      (opening : ∀ line ∈ before, line.isQuiet = true)
      (closing : ∀ line ∈ after, line.isQuiet = true) :
      Wrote engine (before ++
        (engine.reporter.refusalLines denial.mode denial.task ++ denial.line :: after)) (some denial)

theorem wrote_exitOpen (consistent : engine.Consistent published)
    (described : engine.dispatch.Each (·.isDescribed)) (task : Task) :
    engine.Wrote (engine.exitOpen task).lines (engine.denial? (.event (.openExit task))) := by
  have heard := engine.heard_exitOpen task
  generalize silent : engine.reports (.event (.openExit task)) = reports at heard
  generalize engine.denial? (.event (.openExit task)) = denied at heard ⊢
  cases heard with
  | silent => exact .quiet (quiet_exitOpen described silent)
  | @denied _ process profile routine _ present confined loaded registered heard some =>
    have plain := described _ _ registered
    cases routine with
    | custom => cases plain
    | described spec =>
      have denied : spec.denies (engine.contextOf task process profile).requested = true := by
        simpa [heard, spec.reports_described] using some
      obtain ⟨before, after, first, last, same⟩ := lines_exitOpen present confined loaded registered
      obtain ⟨submitted, calm, enforced⟩ :=
        engine.reporter.lines_enforce task process profile
      have pid := (consistent.numbered task.tid process present).1
      have reported : Reporter.decisionLine engine.reporter.mode
          (Reporter.eventOf task process) profile =
            (Denial.mk task engine.mode process.profileKey profile.index).line := by
        rw [Denial.line_eq, Denial.event, Reporter.eventOf, pid]
        rfl
      have closing : ∀ line ∈ submitted ++ after, line.isQuiet = true :=
        fun line member => (List.mem_append.mp member).elim (calm line) (last line)
      have lines : (engine.exitOpen task).lines = before ++
          (engine.reporter.refusalLines engine.mode task ++
            (Denial.mk task engine.mode process.profileKey profile.index).line ::
              (submitted ++ after)) := by
        rw [same, RoutineSpec.lines_run denied, ← reported]
        change before ++ ((engine.reporter.enforce task process profile).lines ++ after) = _
        rw [enforced]
        simp [mode]
      rw [lines]
      exact @Wrote.denied engine ⟨task, engine.mode, process.profileKey, profile.index⟩ _ _
        first closing

theorem wrote_perform (consistent : engine.Consistent published)
    (described : engine.dispatch.Each (·.isDescribed)) (operation : Operation) :
    engine.Wrote (engine.perform operation).lines (engine.denial? operation) := by
  cases operation with
  | event event =>
    cases event with
    | processCreate parent child group =>
      exact .quiet (((engine.tracker.quiet_create parent child group).bind (Logged.quiet_pure _)).bind
        (Logged.quiet_pure _))
    | programLoad tid executable =>
      exact .quiet (((engine.tracker.quiet_load tid executable).bind (Logged.quiet_pure _)).bind
        (Logged.quiet_pure _))
    | processExit tid =>
      exact .quiet (((engine.tracker.quiet_exit tid).bind (Logged.quiet_pure _)).bind
        (Logged.quiet_pure _))
    | openEntry task flags =>
      exact .quiet (((engine.quiet_enterOpen task flags).bind (Logged.quiet_pure _)).bind
        (Logged.quiet_pure _))
    | openExit task =>
      have same : (engine.perform (.event (.openExit task))).lines = (engine.exitOpen task).lines := by
        simp [perform, handle]
      rw [same]
      exact wrote_exitOpen consistent described task
  | addProfile key index =>
    exact .quiet ((engine.quiet_addProfile key index).bind (Logged.quiet_pure _))
  | addProfileForPath files path index =>
    exact .quiet ((engine.quiet_addProfileForPath files path index).bind (Logged.quiet_pure _))
  | removeProfile key => exact .quiet ((engine.quiet_removeProfile key).bind (Logged.quiet_pure _))
  | registerRoutine index routine =>
    exact .quiet ((engine.quiet_registerRoutine index routine).bind (Logged.quiet_pure _))
  | unregisterRoutine index =>
    exact .quiet ((engine.quiet_unregisterRoutine index).bind (Logged.quiet_pure _))
  | install key index routine =>
    exact .quiet ((engine.quiet_install key index routine).bind (Logged.quiet_pure _))
  | setMode mode => exact .quiet ((engine.quiet_setMode mode).bind (Logged.quiet_pure _))
  | drain channel => exact .quiet (Logged.quiet_pure _)

namespace Wrote

variable {lines : List Line} {denied : Option Denial}

theorem isDecision_refusalLines {reporter : Reporter} {mode : Mode} {task : Task} {line : Line}
    (member : line ∈ reporter.refusalLines mode task) : line.isDecision = false := by
  cases mode with
  | audit => cases member
  | enforcing =>
    obtain ⟨fault, _, rfl⟩ := List.mem_map.mp member
    exact Line.isDecision_ofRefusal task fault

theorem filter_isDecision_quiet (quiet : ∀ line ∈ lines, line.isQuiet = true) :
    lines.filter Line.isDecision = [] := by
  rw [List.filter_eq_nil_iff]
  intro line member decision
  have calm := quiet line member
  rw [Line.isQuiet, decision] at calm
  cases calm

theorem filter_isDecision (wrote : engine.Wrote lines denied) :
    lines.filter Line.isDecision = denied.toList.map Denial.line := by
  cases wrote with
  | quiet quiet => exact filter_isDecision_quiet quiet
  | @denied denial before after opening closing =>
    have refused : (engine.reporter.refusalLines denial.mode denial.task).filter Line.isDecision =
        [] := by
      rw [List.filter_eq_nil_iff]
      exact fun line member => Bool.not_eq_true _ ▸ isDecision_refusalLines member
    have decision : denial.line.isDecision = true := by
      rw [denial.line_eq]
      exact Line.isDecision_decisionLine _ _ _
    rw [List.filter_append, List.filter_append, List.filter_cons, filter_isDecision_quiet opening,
      filter_isDecision_quiet closing, refused, if_pos decision]
    rfl

theorem shown {kept : Level} (verbose : kept.shows .warn = true)
    (wrote : engine.Wrote lines denied) :
    engine.Wrote (kept.shown lines) denied := by
  cases wrote with
  | quiet quiet => exact .quiet fun line member => quiet line (List.mem_of_mem_filter member)
  | @denied denial before after opening closing =>
    have refused : kept.shown (engine.reporter.refusalLines denial.mode denial.task) =
        engine.reporter.refusalLines denial.mode denial.task := by
      rw [Level.shown, List.filter_eq_self]
      intro line member
      cases mode : denial.mode with
      | audit =>
        rw [mode] at member
        cases member
      | enforcing =>
        rw [mode] at member
        obtain ⟨fault, _, rfl⟩ := List.mem_map.mp member
        exact decide_eq_true (Nat.zero_le _)
    have decided : kept.shows denial.line.level = true := verbose
    rw [Level.shown, List.filter_append, List.filter_append, List.filter_cons, if_pos decided,
      ← Level.shown, ← Level.shown, ← Level.shown, refused]
    exact .denied (fun line member => opening line (List.mem_of_mem_filter member))
      fun line member => closing line (List.mem_of_mem_filter member)

end Wrote

/-! ## Runs -/

def linesAt (start : Engine) (moment : Moment) : List Line :=
  ((start.after moment.past).perform moment.operation).lines

theorem lines_run_concat (engine : Engine) (operations : List Operation) (operation : Operation) :
    (engine.run (operations ++ [operation])).lines =
      (engine.run operations).lines ++ ((engine.after operations).perform operation).lines := by
  induction operations generalizing engine with
  | nil => simp [run]
  | cons first rest ih =>
    have later := ih (engine.perform first).value.1
    simp only [List.cons_append, run, Logged.lines_bind, Logged.lines_pure, List.append_nil] at later ⊢
    rw [later, List.append_assoc]
    rfl

theorem lines_run (start : Engine) (operations : List Operation) :
    (start.run operations).lines = (moments operations).flatMap start.linesAt := by
  induction operations using List.reverseRecOn with
  | nil => rfl
  | append_singleton earlier operation ih =>
    rw [lines_run_concat, moments_concat, List.flatMap_append, ih]
    simp [linesAt]

variable {config : Config} {terminator : Terminator} {assignments : Assignments}
  {operations : List Operation}

theorem wrote_at (built : (build config terminator assignments).value = .ok start)
    (plain : ∀ operation ∈ operations, operation.isDescribed = true) {moment : Moment}
    (member : moment ∈ moments operations) :
    (start.after moment.past).Wrote (start.linesAt moment)
      ((start.after moment.past).denial? moment.operation) := by
  obtain ⟨rest, split⟩ := exists_rest_of_mem member
  rw [split] at plain
  have before := (List.forall_mem_append.mp plain).1
  exact wrote_perform (consistent_of_build built (registers_of_plain before))
    (described_after built before) moment.operation

theorem filter_isDecision_moments {kept : Level} {history : List Moment}
    (each : ∀ moment ∈ history, (start.after moment.past).Wrote (kept.shown (start.linesAt moment))
      ((start.after moment.past).denial? moment.operation)) :
    (kept.shown (history.flatMap start.linesAt)).filter Line.isDecision =
      (history.filterMap fun moment =>
        (start.after moment.past).denial? moment.operation).map Denial.line := by
  induction history with
  | nil => rfl
  | cons moment rest ih =>
    obtain ⟨wrote, later⟩ := List.forall_mem_cons.mp each
    rw [List.flatMap_cons, Level.shown, List.filter_append, ← Level.shown, ← Level.shown,
      List.filter_append, wrote.filter_isDecision, ih later, List.filterMap_cons]
    cases (start.after moment.past).denial? moment.operation <;> rfl

/-- What the log of a run tells of its denials. -/
structure LogsDecisions (kept : Level) (written : List Line) (start : Engine)
    (operations : List Operation) : Prop where
  decisions : (kept.shown written).filter Line.isDecision =
    (start.denials operations).map Denial.line
  vouched : ∀ moment ∈ moments operations, ∀ denial,
    (start.after moment.past).denial? moment.operation = some denial →
      (start.after moment.past).Vouches denial
  rendered : ∀ denial ∈ start.denials operations,
    ∃ digits, denial.line.render = "WARN [POLICY] " ++ denial.word ++
        s!" pid={denial.task.tid} tid={denial.task.tid} profile=0x" ++ String.ofList digits ++
        s!" routine={denial.index}" ∧
      digits.length = 16 ∧ (∀ c ∈ digits, c ∈ "0123456789abcdef".toList) ∧
      Text.hexNumber? digits = some denial.key.raw.toNat
  refused : ∀ task fault, (Line.ofRefusal task fault).render =
    s!"ERROR [ENFORCE] Failed to signal task {task.tid}: " ++ (Error.signal fault).message
  each : ∀ moment ∈ moments operations,
    (start.after moment.past).Wrote (kept.shown (start.linesAt moment))
      ((start.after moment.past).denial? moment.operation)
  /-- Besides the operations only the making of the engine writes lines, and none about denials. -/
  whole : ∃ opening, (∀ line ∈ opening, line.isQuiet = true) ∧
    written = opening ++ (moments operations).flatMap start.linesAt

/-- Whatever becomes of the events and of the requests to kill, a log that shows warnings reports each
denial once and in order, and nothing else as one. -/
theorem logs_decisions (built : (build config terminator assignments).value = .ok start)
    (plain : ∀ operation ∈ operations, operation.isDescribed = true) {kept : Level}
    (verbose : kept.shows .warn = true) :
    LogsDecisions kept ((build config terminator assignments).lines ++ (start.run operations).lines)
      start operations := by
  have opening := quiet_build config terminator assignments
  have each : ∀ moment ∈ moments operations,
      (start.after moment.past).Wrote (kept.shown (start.linesAt moment))
        ((start.after moment.past).denial? moment.operation) :=
    fun moment member => (wrote_at built plain member).shown verbose
  constructor
  case decisions =>
    have calm : ∀ line ∈ kept.shown (build config terminator assignments).lines,
        line.isQuiet = true := fun line member => opening line (List.mem_of_mem_filter member)
    rw [lines_run, Level.shown, List.filter_append, ← Level.shown, ← Level.shown, List.filter_append,
      Wrote.filter_isDecision_quiet calm, filter_isDecision_moments each]
    rfl
  case vouched =>
    intro moment member denial denied
    obtain ⟨rest, split⟩ := exists_rest_of_mem member
    rw [split] at plain
    have before := (List.forall_mem_append.mp plain).1
    exact vouches_of_denial? (consistent_of_build built (registers_of_plain before)) denied
  case rendered => exact fun denial _ => denial.render_line
  case refused => exact Line.render_ofRefusal
  case each => exact each
  case whole => exact ⟨_, opening, by rw [lines_run]⟩

def powerless : Engine :=
  initial ⟨2, 2, 1, .enforcing, .perThread, 1⟩ .failing .direct

def powerlessRun : List Operation :=
  confinedRun (.described .denyAll) ++
    [.event (.openExit ⟨7, 7⟩), .setMode .audit, .event (.openExit ⟨7, 7⟩)]

/-- All three denials are reported, though the second event is dropped and nobody is killed. -/
theorem logs_decisions_powerless :
    let written := (build ⟨2, 2, 1, .enforcing, .perThread, 1⟩ .failing .direct).lines ++
      (powerless.run powerlessRun).lines
    (powerless.after powerlessRun).bus.dropped .enforcement = 1 ∧
      (powerless.denials powerlessRun).length = 3 ∧
      (Level.warn.shown written).map Line.render =
        ["ERROR [ENFORCE] Failed to signal task 7: Signal error: no such task",
          "WARN [POLICY] ENFORCE pid=7 tid=7 profile=0x0000000000000005 routine=0",
          "ERROR [ENFORCE] Failed to signal task 7: Signal error: no such task",
          "WARN [POLICY] ENFORCE pid=7 tid=7 profile=0x0000000000000005 routine=0",
          "WARN [ENFORCE] Enforcement mode switched to audit",
          "WARN [POLICY] AUDIT pid=7 tid=7 profile=0x0000000000000005 routine=0"] ∧
      LogsDecisions .warn written powerless powerlessRun :=
  ⟨by decide +kernel, by decide +kernel, by decide +kernel, logs_decisions rfl (by decide +kernel) rfl⟩

end Engine

end Confinement
