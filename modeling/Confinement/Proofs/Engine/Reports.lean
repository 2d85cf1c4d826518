import Confinement.Proofs.Engine.History
import Confinement.Proofs.Reporter

/-! What each operation does to the state of enforcement.

The reporter hears of denials at the exit of open calls and at no other time, and of none but those
of the routine that is called. Besides, its mode is set and its channels are drained from outside.
A routine with a description denies a call once at most; any other one may do so again and again.
-/

set_option autoImplicit false

namespace Confinement

def Operation.mode? : Operation → Option Mode
  | setMode mode => some mode
  | _ => none

def Operation.isDescribed (operation : Operation) : Bool :=
  operation.routine?.all Routine.isDescribed

theorem Operation.registers_of_isDescribed {operation : Operation}
    (plain : operation.isDescribed = true) : operation.Registers (·.isDescribed) :=
  fun routine named => (Option.all_eq_true _ _).mp plain routine named

/-- The denial of an open call as its answer tells it, with the profile that the caller runs under. -/
structure Denial where
  task : Task
  mode : Mode
  key : ProfileKey
  index : UInt32
  deriving DecidableEq, Repr

def Denial.event (denial : Denial) : Event :=
  ⟨denial.task.tid, denial.task.tid, denial.key⟩

namespace Engine

variable {engine : Engine} {operation : Operation} {task : Task}

def reports (engine : Engine) (operation : Operation) : List Report :=
  match operation with
  | .event (.openExit task) =>
    match (engine.resolveOpen task).value.2 with
    | .passed _ => []
    | .called routine context => routine.reports context
  | _ => []

inductive Exited (engine : Engine) (task : Task) : List Report → OpenOutcome → Prop where
  | passed {outcome : OpenOutcome}
      (undecided : ∀ index verdict, outcome ≠ .dispatched index verdict) :
      Exited engine task [] outcome
  | called {process : ProcessState} {profile : Profile} {routine : Routine} {reports : List Report}
      (present : engine.processes.find? task.tid = some process)
      (confined : process.isConfined = true)
      (loaded : engine.profiles.find? process.profileKey = some profile)
      (registered : engine.dispatch.get? profile.index = some routine)
      (heard : reports = routine.reports (engine.contextOf task process profile)) :
      Exited engine task reports
        (.dispatched profile.index (if reports = [] then .allowed else .denied engine.mode))

theorem exited_exitOpen (engine : Engine) (task : Task) :
    engine.Exited task (engine.reports (.event (.openExit task))) (engine.exitOpen task).value.2 := by
  have resolved := resolved_resolveOpen engine task
  rw [value_exitOpen, reports]
  generalize (engine.resolveOpen task).value = result at resolved
  cases resolved with
  | passed undecided => exact .passed undecided
  | consulted undecided => exact .passed undecided
  | @called process profile routine present confined loaded registered =>
    have verdict := routine.verdict_run (engine.contextOf task process profile)
    have exited := Exited.called present confined loaded registered rfl
    dsimp only [runRoutine, Logged.value_bind, Logged.value_pure]
    rw [verdict]
    exact exited

theorem reporter_exitOpen (engine : Engine) (task : Task) :
    (engine.exitOpen task).value.1.reporter =
      (engine.reports (.event (.openExit task))).foldl Reporter.enforced engine.reporter := by
  have resolved := resolved_resolveOpen engine task
  rw [value_exitOpen, reports]
  generalize (engine.resolveOpen task).value = result at resolved
  cases resolved with
  | passed => rfl
  | consulted => rfl
  | @called process profile routine =>
    exact routine.reporter_run (engine.contextOf task process profile)

inductive Reporting (engine : Engine) : Operation → Reporter → Prop where
  | heard {operation : Operation} (unset : operation.mode? = none)
      (full : ∀ channel, operation ≠ .drain channel) :
      Reporting engine operation
        ((engine.reports operation).foldl Reporter.enforced engine.reporter)
  | switched {mode : Mode} : Reporting engine (.setMode mode) { engine.reporter with mode }
  | drained {channel : Channel} :
      Reporting engine (.drain channel)
        { engine.reporter with bus := (engine.bus.drain channel).1 }

theorem reporting_next (engine : Engine) (operation : Operation) :
    engine.Reporting operation (engine.next operation).reporter := by
  have heard : (engine.next operation).reporter =
        (engine.reports operation).foldl Reporter.enforced engine.reporter →
      operation.mode? = none → (∀ channel, operation ≠ .drain channel) →
      engine.Reporting operation (engine.next operation).reporter := by
    intro same unset full
    rw [same]
    exact .heard unset full
  cases operation with
  | event event =>
    cases event with
    | openEntry task flags => exact heard (engine.reporter_enterOpen task flags) rfl nofun
    | openExit task => exact heard (engine.reporter_exitOpen task) rfl nofun
    | _ => exact heard rfl rfl nofun
  | addProfile key index => exact heard (engine.added_addProfile key index).reporter rfl nofun
  | addProfileForPath files path index =>
    exact heard (engine.added_addProfileForPath files path index).reporter rfl nofun
  | install key index routine =>
    exact heard (engine.added_install key index routine).reporter rfl nofun
  | registerRoutine | unregisterRoutine | removeProfile => exact heard rfl rfl nofun
  | setMode mode => exact .switched
  | drain channel => exact .drained

theorem mode_next (engine : Engine) (operation : Operation) :
    (engine.next operation).mode = operation.mode?.getD engine.mode := by
  have reporting := engine.reporting_next operation
  rw [mode]
  generalize (engine.next operation).reporter = later at reporting ⊢
  cases reporting with
  | heard unset => rw [unset, Option.getD_none, Reporter.mode_enforcedAll, mode]
  | switched => rfl
  | drained => rfl

/-- All that is neither the mode nor the bus changes by the denials that are heard of, and by nothing
else. -/
theorem reporter_next {β : Type} (part : Reporter → β)
    (other : ∀ reporter mode bus, part { reporter with mode, bus } = part reporter)
    (engine : Engine) (operation : Operation) :
    part (engine.next operation).reporter =
      part ((engine.reports operation).foldl Reporter.enforced engine.reporter) := by
  have reporting := engine.reporting_next operation
  generalize (engine.next operation).reporter = later at reporting ⊢
  cases reporting with
  | heard => rfl
  | @switched mode => exact other engine.reporter mode engine.bus
  | @drained channel => exact other engine.reporter engine.mode (engine.bus.drain channel).1

theorem terminator_next (engine : Engine) (operation : Operation) :
    (engine.next operation).reporter.terminator = engine.reporter.terminator := by
  rw [engine.reporter_next Reporter.terminator fun _ _ _ => rfl, Reporter.terminator_enforcedAll]

theorem denials_next (engine : Engine) (operation : Operation) :
    (engine.next operation).reporter.denials =
      engine.reporter.denials + .ofNat (engine.reports operation).length := by
  rw [engine.reporter_next Reporter.denials fun _ _ _ => rfl, Reporter.denials_enforcedAll]

theorem requested_next (engine : Engine) (operation : Operation) :
    (engine.next operation).reporter.requested = engine.reporter.requested ++
      (engine.reports operation).flatMap fun report => engine.mode.targets report.task := by
  rw [engine.reporter_next Reporter.requested fun _ _ _ => rfl, Reporter.requested_enforcedAll]
  rfl

theorem killed_next (recording : engine.reporter.terminator = .recording)
    (operation : Operation) :
    (engine.next operation).reporter.killed = engine.reporter.killed ++
      (engine.reports operation).flatMap fun report => engine.mode.targets report.task := by
  rw [engine.reporter_next Reporter.killed fun _ _ _ => rfl,
    Reporter.killed_enforcedAll recording]
  rfl

/-! ## Channels -/

def submitted (engine : Engine) (operation : Operation) (channel : Channel) : List Event :=
  if channel = Reporter.channelOf engine.mode then (engine.reports operation).map Report.event
  else []

def taken (engine : Engine) (operation : Operation) (channel : Channel) : List Event :=
  match operation, (engine.perform operation).value.2 with
  | .drain drained, .events events => if channel = drained then events else []
  | _, _ => []

theorem taken_eq_nil {channel : Channel} (full : operation ≠ .drain channel) :
    engine.taken operation channel = [] := by
  unfold taken
  split
  case h_1 drained events _ =>
    refine if_neg ?_
    rintro rfl
    exact full rfl
  case h_2 => rfl

theorem submitted_eq_nil (quiet : engine.reports operation = []) (channel : Channel) :
    engine.submitted operation channel = [] := by
  rw [submitted, quiet]
  exact ite_self _

theorem carries_next {channel : Channel} {submitted taken : List Event}
    (carries : (engine.bus.queue channel).Carries submitted taken) (operation : Operation) :
    ((engine.next operation).bus.queue channel).Carries
      (submitted ++ engine.submitted operation channel)
      (taken ++ engine.taken operation channel) := by
  have reporting := engine.reporting_next operation
  rw [bus]
  generalize (engine.next operation).reporter = later at reporting ⊢
  cases reporting with
  | heard unset full =>
    rw [taken_eq_nil (full channel), List.append_nil, Engine.submitted]
    by_cases same : channel = Reporter.channelOf engine.mode
    · rw [if_pos same]
      subst same
      exact Reporter.carries_enforcedAll carries _
    · rw [if_neg same, List.append_nil, Reporter.queue_enforcedAll same]
      exact carries
  | @switched mode =>
    have full : Operation.setMode mode ≠ .drain channel := nofun
    rw [submitted_eq_nil rfl, taken_eq_nil full, List.append_nil, List.append_nil]
    exact carries
  | @drained drained =>
    rw [submitted_eq_nil rfl, List.append_nil]
    dsimp only
    rw [Bus.queue_drain]
    by_cases same : channel = drained
    · subst same
      have events : engine.taken (.drain channel) channel = (engine.bus.queue channel).pending :=
        if_pos rfl
      rw [if_pos rfl, events]
      exact carries.drained
    · rw [if_neg same, taken_eq_nil (by simpa using Ne.symm same), List.append_nil]
      exact carries

/-- An operation without denials leaves enforcement as it is, but for the mode and what is drained. -/
theorem quiet_next (quiet : engine.reports operation = []) :
    (engine.next operation).reporter.denials = engine.reporter.denials ∧
      (engine.next operation).reporter.killed = engine.reporter.killed ∧
      ∀ channel, (engine.next operation).bus.dropped channel = engine.bus.dropped channel ∧
        (operation ≠ .drain channel →
          (engine.next operation).bus.pending channel = engine.bus.pending channel) := by
  have reporting := engine.reporting_next operation
  rw [bus]
  generalize (engine.next operation).reporter = later at reporting ⊢
  cases reporting with
  | heard =>
    rw [quiet]
    exact ⟨rfl, rfl, fun channel => ⟨rfl, fun _ => rfl⟩⟩
  | switched => exact ⟨rfl, rfl, fun channel => ⟨rfl, fun _ => rfl⟩⟩
  | @drained drained =>
    refine ⟨rfl, rfl, fun channel => ?_⟩
    dsimp only
    rw [Bus.dropped, Bus.pending, Bus.queue_drain]
    by_cases same : channel = drained
    · subst same
      rw [if_pos rfl]
      exact ⟨rfl, fun other => absurd rfl other⟩
    · rw [if_neg same]
      exact ⟨rfl, fun _ => rfl⟩

/-! ## Denials -/

def denial? (engine : Engine) (operation : Operation) : Option Denial :=
  match operation, (engine.perform operation).value.2 with
  | .event (.openExit task), .outcome (.opened (.dispatched index (.denied mode))) =>
    some ⟨task, mode, engine.tracker.profileOf task.tid, index⟩
  | _, _ => none

inductive Heard (engine : Engine) : Operation → List Report → Option Denial → Prop where
  | silent {operation : Operation} : Heard engine operation [] none
  | denied {task : Task} {process : ProcessState} {profile : Profile} {routine : Routine}
      {reports : List Report} (present : engine.processes.find? task.tid = some process)
      (confined : process.isConfined = true)
      (loaded : engine.profiles.find? process.profileKey = some profile)
      (registered : engine.dispatch.get? profile.index = some routine)
      (heard : reports = routine.reports (engine.contextOf task process profile))
      (some : reports ≠ []) :
      Heard engine (.event (.openExit task)) reports
        (.some ⟨task, engine.mode, process.profileKey, profile.index⟩)

theorem heard_exitOpen (engine : Engine) (task : Task) :
    engine.Heard (.event (.openExit task)) (engine.reports (.event (.openExit task)))
      (engine.denial? (.event (.openExit task))) := by
  have exited := engine.exited_exitOpen task
  have answer : (engine.perform (.event (.openExit task))).value.2 =
      .outcome (.opened (engine.exitOpen task).value.2) := rfl
  unfold denial?
  rw [answer]
  generalize engine.reports (.event (.openExit task)) = reports at exited
  generalize (engine.exitOpen task).value.2 = outcome at exited
  cases exited with
  | passed undecided =>
    cases outcome with
    | dispatched index verdict => exact absurd rfl (undecided index verdict)
    | _ => exact .silent
  | called present confined loaded registered heard =>
    by_cases none : reports = []
    · rw [if_pos none, none]
      exact .silent
    · rw [if_neg none]
      dsimp only
      rw [Tracker.profileOf_tracked present]
      exact .denied present confined loaded registered heard none

theorem heard_next (engine : Engine) (operation : Operation) :
    engine.Heard operation (engine.reports operation) (engine.denial? operation) := by
  cases operation with
  | event event =>
    cases event with
    | openExit task => exact engine.heard_exitOpen task
    | _ => exact .silent
  | _ => exact .silent

theorem reports_eq_nil (allowed : engine.denial? operation = none) :
    engine.reports operation = [] := by
  have heard := engine.heard_next operation
  generalize engine.reports operation = reports at heard ⊢
  rw [allowed] at heard
  cases heard with
  | silent => rfl

def reported (start : Engine) (operations : List Operation) : List Report :=
  (moments operations).flatMap fun moment => (start.after moment.past).reports moment.operation

def denials (start : Engine) (operations : List Operation) : List Denial :=
  (moments operations).filterMap fun moment => (start.after moment.past).denial? moment.operation

variable {start : Engine}

theorem reported_concat (start : Engine) (operations : List Operation) (operation : Operation) :
    start.reported (operations ++ [operation]) =
      start.reported operations ++ (start.after operations).reports operation := by
  simp [reported, moments_concat]

theorem denials_concat (start : Engine) (operations : List Operation) (operation : Operation) :
    start.denials (operations ++ [operation]) =
      start.denials operations ++ ((start.after operations).denial? operation).toList := by
  rw [denials, moments_concat, List.filterMap_append, denials]
  cases denied : (start.after operations).denial? operation <;> simp [denied]

theorem denials_singleton (start : Engine) (operation : Operation) :
    start.denials [operation] = (start.denial? operation).toList := by
  rw [← List.nil_append [operation], denials_concat]
  rfl

end Engine

end Confinement
