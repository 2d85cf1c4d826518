import Confinement.Engine.Outline
import Confinement.Proofs.Engine.Relays
import Confinement.Proofs.Engine.Sharing
import Confinement.Proofs.Engine.Taints
import Confinement.Proofs.Table.Spacious

/-! What an open call comes to from its entry to its exit.

The entry changes nothing that decides on the call, and what it captures is still there when the exit comes
right after it. So the answer is that of the tables and routines as they were before the call, for the access
that was asked for, and all else that changes is the taint of the caller and what the reporter is told.
-/

set_option autoImplicit false

namespace Confinement

namespace Engine

variable {engine : Engine} {task : Task} {flags : OpenFlags} {record : ProcessState}
  {profile : Profile} {routine : Routine} {spec : RoutineSpec}

/-- The routine that is to decide on an open call of the task: that of the profile it runs under. -/
structure Sends (engine : Engine) (task : Task) (record : ProcessState) (profile : Profile)
    (routine : Routine) : Prop where
  present : engine.processes.find? task.tid = some record
  confined : record.profileKey ≠ .unconfined
  loaded : engine.profiles.find? record.profileKey = some profile
  registered : engine.dispatch.get? profile.index = some routine

inductive Decides (engine : Engine) (task : Task) (requested : Access) : OpenOutcome → Prop where
  | untracked (absent : engine.processes.find? task.tid = none) : Decides engine task requested .passThrough
  | unconfined {record : ProcessState} (present : engine.processes.find? task.tid = some record)
      (free : record.profileKey = .unconfined) : Decides engine task requested .unconfined
  | missing {record : ProcessState} (present : engine.processes.find? task.tid = some record)
      (confined : record.profileKey ≠ .unconfined)
      (absent : engine.profiles.find? record.profileKey = none) :
      Decides engine task requested (.profileMissing record.profileKey)
  | unregistered {record : ProcessState} {profile : Profile}
      (present : engine.processes.find? task.tid = some record)
      (confined : record.profileKey ≠ .unconfined)
      (loaded : engine.profiles.find? record.profileKey = some profile)
      (absent : engine.dispatch.get? profile.index = none) :
      Decides engine task requested (.routineMissing profile.index)
  | allowed {record : ProcessState} {profile : Profile} {spec : RoutineSpec}
      (sends : engine.Sends task record profile (.described spec)) (allows : ¬ spec.Denies requested) :
      Decides engine task requested (.dispatched profile.index .allowed)
  | denied {record : ProcessState} {profile : Profile} {spec : RoutineSpec}
      (sends : engine.Sends task record profile (.described spec)) (denies : spec.Denies requested) :
      Decides engine task requested (.dispatched profile.index (.denied engine.mode))
  /-- What any other routine decides is not told by the access that is asked for. -/
  | custom {record : ProcessState} {profile : Profile} {name : String}
      {script : List ScriptRun → Situation → Script} {verdict : Verdict}
      (sends : engine.Sends task record profile (.custom name script)) :
      Decides engine task requested (.dispatched profile.index verdict)

/-- What an open call comes to, and all that it changes. -/
structure Opens (engine : Engine) (task : Task) (flags : OpenFlags) (after : Engine)
    (outcome : OpenOutcome) : Prop where
  run : (engine.run [.event (.openEntry task flags), .event (.openExit task)]).value =
    (after, [.outcome (.captured (engine.processes.contains task.tid)), .outcome (.opened outcome)])
  decided : engine.Decides task flags.access outcome
  tainted : ∀ record profile spec, engine.Sends task record profile (.described spec) →
    spec.Taints flags.access →
    after.processes.find? task.tid = some { record with tainted := true }
  untainted : (∀ record profile routine, engine.Sends task record profile routine →
      ∃ spec, routine = .described spec ∧ ¬ spec.Taints flags.access) →
    after.processes.find? task.tid = engine.processes.find? task.tid
  denied : ∀ record profile spec, engine.Sends task record profile (.described spec) →
    spec.Denies flags.access →
    engine.reporter.Denied task ⟨task.tid, task.tid, record.profileKey⟩ after.reporter
  allowed : (∀ record profile routine, engine.Sends task record profile routine →
      ∃ spec, routine = .described spec ∧ ¬ spec.Denies flags.access) →
    after.reporter = engine.reporter
  others : (∀ record profile routine, engine.Sends task record profile routine →
      routine.IsSolitary) →
    ∀ tid, tid ≠ task.tid → after.processes.find? tid = engine.processes.find? tid
  profiles : ∀ key, after.profiles.find? key = engine.profiles.find? key
  dispatch : after.dispatch = engine.dispatch
  mode : after.mode = engine.mode
  config : after.config = engine.config
  counted : (∀ record profile routine, engine.Sends task record profile routine →
      routine.isDescribed = true) →
    after.scriptRuns = engine.scriptRuns ∧
      after.stats = { engine with reporter := after.reporter }.stats
  emptied : engine.slot.mode = .perThread → after.slot.waiting? task.tid = none
  /-- What waits for another thread may be pushed out, and only by what is captured. -/
  waiting : engine.slot.mode = .perThread → ∀ tid, tid ≠ task.tid →
    after.slot.waiting? tid = engine.slot.waiting? tid ∨
      after.slot.waiting? tid = none ∧ engine.processes.find? task.tid ≠ none ∧
        engine.slot.waiting? task.tid = none ∧ engine.slot.Full task.tid
  shared : ∀ cell, engine.slot = .shared cell →
    after.slot = .shared (if engine.processes.contains task.tid then some flags else cell)

/-! ## The entry -/

theorem scriptRuns_enterOpen (engine : Engine) (task : Task) (flags : OpenFlags) :
    (engine.enterOpen task flags).value.1.scriptRuns = engine.scriptRuns := by
  cases present : engine.processes.find? task.tid with
  | none => rw [enterOpen_untracked present]
  | some record => rw [enterOpen_tracked present]

/-- The exit right after the entry of a tracked caller finds what the caller passed. -/
theorem Reachable.handed (reachable : engine.Reachable)
    (present : engine.processes.find? task.tid = some record) (flags : OpenFlags) :
    (engine.enterOpen task flags).value.2 = true ∧
      (engine.next (.event (.openEntry task flags))).slot.waiting? task.tid = some flags := by
  change _ ∧ (engine.enterOpen task flags).value.1.slot.waiting? task.tid = some flags
  rw [enterOpen_tracked present]
  cases mode : engine.slot.mode with
  | perThread => exact reachable.captured mode present flags
  | shared =>
    cases place : engine.slot with
    | perThread table =>
      rw [place] at mode
      cases mode
    | shared cell => exact ⟨rfl, rfl⟩

theorem Reachable.answer_enterOpen (reachable : engine.Reachable) (task : Task) (flags : OpenFlags) :
    (engine.enterOpen task flags).value.2 = engine.processes.contains task.tid := by
  cases present : engine.processes.find? task.tid with
  | none => rw [enterOpen_untracked present, Table.contains, present, Option.isSome_none]
  | some record => rw [(reachable.handed present flags).1, Table.contains, present, Option.isSome_some]

structure Awaits (engine : Engine) (task : Task) (flags : OpenFlags) (entered : Engine) : Prop where
  tasks : ∀ tid, entered.processes.find? tid = engine.processes.find? tid
  size : entered.processes.size = engine.processes.size
  evicted : entered.processes.evicted = engine.processes.evicted
  profiles : entered.profiles = engine.profiles
  dispatch : entered.dispatch = engine.dispatch
  reporter : entered.reporter = engine.reporter
  scriptRuns : entered.scriptRuns = engine.scriptRuns
  handed : ∀ record, entered.processes.find? task.tid = some record →
    entered.slot.waiting? task.tid = some flags

theorem Reachable.awaits (reachable : engine.Reachable) (task : Task) (flags : OpenFlags) :
    engine.Awaits task flags (engine.next (.event (.openEntry task flags))) := by
  have sound := reachable.linked.sound
  have tasks := find?_next_openEntry sound task flags
  have looked : (engine.next (.event (.openEntry task flags))).processes =
      (engine.processes.lookup task.tid).1 := engine.processes_enterOpen task flags
  constructor
  case tasks => exact tasks
  case size => rw [looked, sound.tasks.size_lookup]
  case evicted => rw [looked, (engine.processes.spared_lookup id (fun _ => False) task.tid).evicted]
  case profiles => exact engine.profiles_enterOpen task flags
  case dispatch => exact engine.dispatch_enterOpen task flags
  case reporter => exact engine.reporter_enterOpen task flags
  case scriptRuns => exact engine.scriptRuns_enterOpen task flags
  case handed => exact fun record present => (reachable.handed ((tasks task.tid).symm.trans present) flags).2

namespace Awaits

variable {entered : Engine}

theorem sends_iff (awaits : engine.Awaits task flags entered) :
    entered.Sends task record profile routine ↔ engine.Sends task record profile routine := by
  constructor
  · rintro ⟨present, confined, loaded, registered⟩
    exact ⟨awaits.tasks task.tid ▸ present, confined, awaits.profiles ▸ loaded,
      awaits.dispatch ▸ registered⟩
  · rintro ⟨present, confined, loaded, registered⟩
    exact ⟨(awaits.tasks task.tid).trans present, confined, awaits.profiles ▸ loaded,
      awaits.dispatch ▸ registered⟩

theorem decides (awaits : engine.Awaits task flags entered) {requested : Access} {outcome : OpenOutcome}
    (decides : entered.Decides task requested outcome) : engine.Decides task requested outcome := by
  have tasks := awaits.tasks task.tid
  have profiles := awaits.profiles
  have dispatch := awaits.dispatch
  cases decides with
  | untracked absent => exact .untracked (tasks ▸ absent)
  | unconfined present free => exact .unconfined (tasks ▸ present) free
  | missing present confined absent => exact .missing (tasks ▸ present) confined (profiles ▸ absent)
  | unregistered present confined loaded absent =>
    exact .unregistered (tasks ▸ present) confined (profiles ▸ loaded) (dispatch ▸ absent)
  | allowed sends allows => exact .allowed (awaits.sends_iff.mp sends) allows
  | denied sends denies =>
    rw [mode, awaits.reporter]
    exact .denied (awaits.sends_iff.mp sends) denies
  | custom sends => exact .custom (awaits.sends_iff.mp sends)

end Awaits

/-! ## The exit -/

theorem next_openExit (engine : Engine) (task : Task) :
    engine.next (.event (.openExit task)) = (engine.exitOpen task).value.1 := rfl

theorem requested_contextOf (handed : engine.slot.waiting? task.tid = some flags) :
    (engine.contextOf task record profile).requested = flags.access := by
  have context : (engine.contextOf task record profile).flags = some flags := handed
  rw [Situation.requested, context]

theorem Sends.resolved (sends : engine.Sends task record profile routine) :
    (engine.resolveOpen task).value =
      ((engine.left task).consulted record.profileKey,
        .called routine (engine.contextOf task record profile)) :=
  resolveOpen_registered sends.present (record.isConfined_iff.mpr sends.confined) sends.loaded
    sends.registered

theorem Sends.exitOpen (sends : engine.Sends task record profile routine) :
    (engine.exitOpen task).value =
      ((((engine.left task).consulted record.profileKey).runRoutine routine
          (engine.contextOf task record profile)).value.1,
        .dispatched profile.index (routine.run (engine.contextOf task record profile)).value.1.verdict) := by
  rw [value_exitOpen, sends.resolved]
  rfl

inductive Ends (engine : Engine) (task : Task) : Engine → Prop where
  | passed : Ends engine task (engine.left task)
  | consulted {key : ProfileKey} : Ends engine task ((engine.left task).consulted key)
  | ran {record : ProcessState} {profile : Profile} {routine : Routine}
      (sends : engine.Sends task record profile routine) :
      Ends engine task (((engine.left task).consulted record.profileKey).runRoutine routine
        (engine.contextOf task record profile)).value.1

theorem ends_exitOpen (engine : Engine) (task : Task) :
    engine.Ends task (engine.exitOpen task).value.1 := by
  have resolved := engine.resolved_resolveOpen task
  rw [value_exitOpen]
  generalize (engine.resolveOpen task).value = result at resolved
  cases resolved with
  | passed => exact .passed
  | consulted => exact .consulted
  | called present confined loaded registered =>
    exact .ran ⟨present, (ProcessState.isConfined_iff _).mp confined, loaded, registered⟩

theorem Sends.find?_exitOpen_of_taints (sends : engine.Sends task record profile (.described spec))
    (reachable : engine.ReachableBy Routine.IsRestrained)
    (handed : engine.slot.waiting? task.tid = some flags) (taints : spec.Taints flags.access) :
    (engine.exitOpen task).value.1.processes.find? task.tid = some { record with tainted := true } := by
  have tasks := reachable.reachable.linked.sound.tasks
  have bounded := (engine.processes.follows_lookup task.tid).bounded tasks
  have modified := bounded.find?_modify record.pid task.tid fun record : ProcessState =>
    { record with tainted := true }
  rw [if_pos (reachable.numbered sends.present).symm, tasks.find?_lookup, sends.present] at modified
  rw [← requested_contextOf handed] at taints
  rw [sends.exitOpen]
  dsimp only [runRoutine, Logged.value_bind, Logged.value_pure, Routine.run, processes]
  rw [RoutineSpec.processes_run_of_taints taints]
  exact modified

theorem Sends.denied_exitOpen (sends : engine.Sends task record profile (.described spec))
    (reachable : engine.ReachableBy Routine.IsRestrained)
    (handed : engine.slot.waiting? task.tid = some flags) (denies : spec.Denies flags.access) :
    engine.reporter.Denied task ⟨task.tid, task.tid, record.profileKey⟩
      (engine.exitOpen task).value.1.reporter := by
  have denied := engine.reporter.denied_enforced (engine.contextOf task record profile).report
  have own : (engine.contextOf task record profile).report =
      ⟨task, task.tid, task.tid, record.profileKey⟩ := by
    rw [Context.report, Reporter.eventOf, contextOf, reachable.numbered sends.present]
  rw [own] at denied
  rw [← spec.denies_iff, ← requested_contextOf handed] at denies
  rw [reporter_exitOpen, reports, sends.resolved]
  dsimp only
  rw [spec.reports_described, if_pos denies, own]
  exact denied

section

variable (handed : ∀ record, engine.processes.find? task.tid = some record →
  engine.slot.waiting? task.tid = some flags)
include handed

theorem decides_exitOpen :
    engine.Decides task flags.access (engine.exitOpen task).value.2 := by
  cases present : engine.processes.find? task.tid with
  | none =>
    rw [value_exitOpen, resolveOpen_untracked present]
    exact .untracked present
  | some record =>
    by_cases free : record.profileKey = .unconfined
    · have unconfined : record.isConfined = false := by
        rw [← Bool.not_eq_true, record.isConfined_iff]
        exact not_not_intro free
      rw [value_exitOpen, resolveOpen_unconfined present unconfined]
      exact .unconfined present free
    · have confined := record.isConfined_iff.mpr free
      cases loaded : engine.profiles.find? record.profileKey with
      | none =>
        rw [value_exitOpen, resolveOpen_missing present confined loaded]
        exact .missing present free loaded
      | some profile =>
        cases registered : engine.dispatch.get? profile.index with
        | none =>
          rw [value_exitOpen, resolveOpen_unregistered present confined loaded registered]
          exact .unregistered present free loaded registered
        | some routine =>
          have sends : engine.Sends task record profile routine := ⟨present, free, loaded, registered⟩
          rw [sends.exitOpen]
          cases routine with
          | custom name script => exact .custom sends
          | described spec =>
            rw [Routine.verdict_run, spec.reports_described, requested_contextOf (handed record present)]
            by_cases denies : spec.Denies flags.access
            · rw [if_pos ((spec.denies_iff _).mpr denies)]
              exact .denied sends denies
            · rw [if_neg (mt (spec.denies_iff _).mp denies)]
              exact .allowed sends denies

theorem find?_exitOpen_of_not_taints (sound : engine.Sound)
    (clean : ∀ record profile routine, engine.Sends task record profile routine →
      ∃ spec, routine = .described spec ∧ ¬ spec.Taints flags.access) :
    (engine.exitOpen task).value.1.processes.find? task.tid = engine.processes.find? task.tid := by
  have looked := sound.tasks.find?_lookup task.tid task.tid
  have ends := engine.ends_exitOpen task
  generalize (engine.exitOpen task).value.1 = after at ends
  cases ends with
  | passed | consulted => exact looked
  | @ran record profile routine sends =>
    obtain ⟨spec, rfl, clean⟩ := clean record profile routine sends
    rw [← requested_contextOf (handed record sends.present)] at clean
    dsimp only [runRoutine, Logged.value_bind, Logged.value_pure, Routine.run, processes]
    rw [RoutineSpec.processes_run_of_not_taints clean]
    exact looked

theorem reporter_exitOpen_of_allows
    (allows : ∀ record profile routine, engine.Sends task record profile routine →
      ∃ spec, routine = .described spec ∧ ¬ spec.Denies flags.access) :
    (engine.exitOpen task).value.1.reporter = engine.reporter := by
  have ends := engine.ends_exitOpen task
  generalize (engine.exitOpen task).value.1 = after at ends
  cases ends with
  | passed | consulted => rfl
  | @ran record profile routine sends =>
    obtain ⟨spec, rfl, allows⟩ := allows record profile routine sends
    rw [← requested_contextOf (handed record sends.present), ← spec.denies_iff] at allows
    dsimp only [runRoutine, Logged.value_bind, Logged.value_pure]
    rw [Routine.reporter_run, spec.reports_described, if_neg allows]
    rfl

end

theorem size_profiles_exitOpen (sound : engine.Sound) (task : Task) :
    (engine.exitOpen task).value.1.profiles.size = engine.profiles.size := by
  have ends := engine.ends_exitOpen task
  generalize (engine.exitOpen task).value.1 = after at ends
  cases ends with
  | passed => rfl
  | consulted | ran => exact sound.profiles.size_lookup _

section

variable (plain : ∀ record profile routine, engine.Sends task record profile routine →
  routine.isDescribed = true)
include plain

theorem size_processes_exitOpen (sound : engine.Sound) :
    (engine.exitOpen task).value.1.processes.size = engine.processes.size := by
  have looked := sound.tasks.size_lookup task.tid
  have bounded := (engine.processes.follows_lookup task.tid).bounded sound.tasks
  have ends := engine.ends_exitOpen task
  generalize (engine.exitOpen task).value.1 = after at ends
  cases ends with
  | passed | consulted => exact looked
  | @ran record profile routine sends =>
    obtain ⟨spec, rfl⟩ := Routine.exists_spec (plain record profile routine sends)
    dsimp only [runRoutine, Logged.value_bind, Logged.value_pure, Routine.run, processes]
    by_cases taints : spec.Taints (engine.contextOf task record profile).requested
    · rw [RoutineSpec.processes_run_of_taints taints]
      exact (bounded.size_modify _ _).trans looked
    · rw [RoutineSpec.processes_run_of_not_taints taints]
      exact looked

theorem scriptRuns_exitOpen : (engine.exitOpen task).value.1.scriptRuns = engine.scriptRuns := by
  have ends := engine.ends_exitOpen task
  generalize (engine.exitOpen task).value.1 = after at ends
  cases ends with
  | passed | consulted => rfl
  | @ran record profile routine sends =>
    obtain ⟨spec, rfl⟩ := Routine.exists_spec (plain record profile routine sends)
    exact List.append_nil engine.scriptRuns

end

/-! ## From the entry to the exit -/

/-- An open call pushes out what waits for another thread only where its caller is new to a full part of
the slot. -/
theorem waiting?_opened (threaded : engine.slot.Threaded) (task : Task) (flags : OpenFlags) {tid : UInt32}
    (other : tid ≠ task.tid) :
    (((engine.next (.event (.openEntry task flags))).exitOpen task).value.1.slot.waiting? tid =
        engine.slot.waiting? tid) ∨
      ((engine.next (.event (.openEntry task flags))).exitOpen task).value.1.slot.waiting? tid = none ∧
        engine.processes.find? task.tid ≠ none ∧ engine.slot.waiting? task.tid = none ∧
        engine.slot.Full task.tid := by
  have later := (engine.follows_slot (.event (.openEntry task flags))).threaded threaded
  have entered := entered_next threaded task flags
  rw [slot_exitOpen, later.waiting?_take, if_neg other]
  generalize (engine.enterOpen task flags).value.2 = answer at entered
  cases entered with
  | untracked _ same => exact .inl (congrArg (OpenSlot.waiting? · tid) same)
  | tracked present captured =>
    cases captured with
    | refused _ _ same => exact .inl (same tid)
    | kept _ others => exact .inl (others tid other)
    | pushing _ empty full others _ =>
      exact (others tid other).symm.imp_right fun gone => ⟨gone, present, empty, full⟩

theorem shared_opened {cell : Option OpenFlags} (place : engine.slot = .shared cell) (task : Task)
    (flags : OpenFlags) :
    ((engine.next (.event (.openEntry task flags))).exitOpen task).value.1.slot =
      .shared (if engine.processes.contains task.tid then some flags else cell) := by
  rw [slot_exitOpen]
  exact congrArg (fun slot : OpenSlot => (slot.take task.tid).1) (value_enterOpen_shared place task flags).1

theorem Awaits.stats_exitOpen {entered : Engine} (awaits : engine.Awaits task flags entered)
    (sound : entered.Sound) (restrained : entered.dispatch.Each Routine.IsRestrained)
    (plain : ∀ record profile routine, entered.Sends task record profile routine →
      routine.isDescribed = true) :
    (entered.exitOpen task).value.1.stats =
      { engine with reporter := (entered.exitOpen task).value.1.reporter }.stats := by
  have size := (size_processes_exitOpen plain sound).trans awaits.size
  have evicted := (spared_exitOpen restrained task).evicted.trans awaits.evicted
  have held := size_profiles_exitOpen sound task
  have retained := (entered.retained_profiles_exitOpen task).evicted
  have routines := (entered.dispatch_exitOpen task).trans awaits.dispatch
  rw [awaits.profiles] at held retained
  generalize (entered.exitOpen task).value.1 = after at *
  simp only [stats, Table.evictions, size, evicted, held, retained, routines]
  rfl

theorem Reachable.run_open (reachable : engine.Reachable) (task : Task) (flags : OpenFlags) :
    (engine.run [.event (.openEntry task flags), .event (.openExit task)]).value =
      (((engine.next (.event (.openEntry task flags))).exitOpen task).value.1,
        [.outcome (.captured (engine.processes.contains task.tid)),
          .outcome (.opened ((engine.next (.event (.openEntry task flags))).exitOpen task).value.2)]) := by
  rw [← reachable.answer_enterOpen task flags]
  simp only [Engine.run, perform, handle, Logged.value_bind, Logged.value_pure]
  rfl

theorem Reachable.decides_open (reachable : engine.Reachable) (task : Task) (flags : OpenFlags) :
    engine.Decides task flags.access
      ((engine.next (.event (.openEntry task flags))).exitOpen task).value.2 := by
  have awaits := reachable.awaits task flags
  exact awaits.decides (decides_exitOpen awaits.handed)

/-- An open call is decided by what the tables and routines say when it begins, for the access that its
caller asks for, and leaves all but the taint of its caller, the reporter and what was captured. -/
theorem opens_of_reachable (restrained : engine.ReachableBy Routine.IsRestrained) (task : Task)
    (flags : OpenFlags) : ∃ after outcome, engine.Opens task flags after outcome := by
  have reachable := restrained.reachable
  have awaits := reachable.awaits task flags
  have again : (engine.next (.event (.openEntry task flags))).ReachableBy Routine.IsRestrained :=
    restrained.event _
  have sound := again.reachable.linked.sound
  have left := next_openExit (engine.next (.event (.openEntry task flags))) task
  refine ⟨((engine.next (.event (.openEntry task flags))).exitOpen task).value.1,
    ((engine.next (.event (.openEntry task flags))).exitOpen task).value.2, ?_⟩
  constructor
  case run => exact reachable.run_open task flags
  case decided => exact reachable.decides_open task flags
  case tainted =>
    intro record profile spec sends taints
    have sent := awaits.sends_iff.mpr sends
    exact sent.find?_exitOpen_of_taints again (awaits.handed record sent.present) taints
  case untainted =>
    intro clean
    have same := find?_exitOpen_of_not_taints awaits.handed sound fun record profile routine sent =>
      clean record profile routine (awaits.sends_iff.mp sent)
    exact same.trans (awaits.tasks task.tid)
  case denied =>
    intro record profile spec sends denies
    have sent := awaits.sends_iff.mpr sends
    rw [← awaits.reporter]
    exact sent.denied_exitOpen again (awaits.handed record sent.present) denies
  case allowed =>
    intro allows
    have same := reporter_exitOpen_of_allows awaits.handed fun record profile routine sent =>
      allows record profile routine (awaits.sends_iff.mp sent)
    exact same.trans awaits.reporter
  case others =>
    intro solitary tid other
    refine (find?_exitOpen_of_solitary sound (fun _ => again.numbered) ?_ other).trans (awaits.tasks tid)
    exact fun record profile routine present confined loaded registered =>
      solitary record profile routine (awaits.sends_iff.mp
        ⟨present, (ProcessState.isConfined_iff _).mp confined, loaded, registered⟩)
  case profiles =>
    intro key
    have retained := (retained_profiles_exitOpen _ task).found sound.profiles key
    rw [Option.map_id_fun, id, id, awaits.profiles] at retained
    exact retained
  case dispatch => exact (dispatch_exitOpen _ task).trans awaits.dispatch
  case mode =>
    rw [← left, mode_next, mode_next]
    rfl
  case config => rw [← left, config_next, config_next]
  case counted =>
    intro plain
    have described := fun record profile routine sent =>
      plain record profile routine (awaits.sends_iff.mp sent)
    exact ⟨(scriptRuns_exitOpen described).trans awaits.scriptRuns,
      awaits.stats_exitOpen sound again.each described⟩
  case emptied =>
    intro mode
    have threaded := (engine.follows_slot (.event (.openEntry task flags))).threaded
      (reachable.linked.threaded mode)
    rw [slot_exitOpen, threaded.waiting?_take, if_pos rfl]
  case waiting =>
    exact fun mode tid other => waiting?_opened (reachable.linked.threaded mode) task flags other
  case shared => exact fun cell place => shared_opened place task flags

/-- A task that may read only opens a file to write. -/
theorem opens_of_reachable_writer :
    ∃ after, (pair.after
        ((confinedRun (.described (.access ⟨.onlyRead, .none, .none⟩))).take 4)).Opens ⟨7, 7⟩ (.forOpen 1 0)
      after (.dispatched 0 (.denied .audit)) := by
  have restrained := (RoutineSpec.access ⟨.onlyRead, .none, .none⟩).keepsRecords.isRestrained
  have reachable : (pair.after
      ((confinedRun (.described (.access ⟨.onlyRead, .none, .none⟩))).take 4)).ReachableBy
        Routine.IsRestrained :=
    reachableBy_of_build build_pair fun operation member =>
      registers_confinedRun restrained operation (List.mem_of_mem_take member)
  obtain ⟨after, outcome, opens⟩ := opens_of_reachable reachable ⟨7, 7⟩ (.forOpen 1 0)
  have answers : ((pair.after
      ((confinedRun (.described (.access ⟨.onlyRead, .none, .none⟩))).take 4)).run
        [.event (.openEntry ⟨7, 7⟩ (.forOpen 1 0)), .event (.openExit ⟨7, 7⟩)]).value.2 =
      [.outcome (.captured true), .outcome (.opened (.dispatched 0 (.denied .audit)))] := rfl
  rw [opens.run] at answers
  cases answers
  exact ⟨after, opens⟩

end Engine

end Confinement
