import Confinement.Proofs.Engine.Captures
import Confinement.Proofs.Engine.Correspondence
import Confinement.Proofs.Engine.Reachable
import Confinement.Proofs.Table.Sharing

/-! What an event leaves alone, and what it depends on.

Each event concerns one task, or a task and its parent. It finds out about these and about the profiles, and
changes nothing of any other task, unless a record or a capture gives way. So two engines that agree on the
tasks of an event answer it alike, and still agree on them.
-/

set_option autoImplicit false

namespace Confinement

def KernelEvent.tids : KernelEvent → List UInt32
  | processCreate parent child _ => [parent, child]
  | programLoad tid _ | processExit tid => [tid]
  | openEntry task _ | openExit task => [task.tid]

def Resolution.reporting (resolution : Resolution) (reporter : Reporter) (memory : List ScriptRun) :
    Resolution :=
  match resolution with
  | .passed outcome => .passed outcome
  | .called routine context => .called routine (context.reporting reporter memory)

namespace Context.Aligned

variable {tasks : Table.Correspondence UInt32 ProcessState} {context other : Context}

theorem reports_script (aligned : context.Aligned tasks other) (asked : tasks.asked context.process.pid)
    {script : Script} (fits : ∀ request ∈ script.requests context, Fits tasks request)
    (still : tasks.allowed (script.run context).value.1.processes
      (script.run other).value.1.processes) :
    script.reports other = script.reports context := by
  induction script generalizing context other with
  | done => rfl
  | ask request next ih =>
    have early := tasks.allowed_of_follows (Script.follows_run (next _) _)
      (Script.follows_run (next _) _) still
    obtain ⟨own, fits⟩ := List.forall_mem_cons.mp fits
    obtain ⟨performed, answer, again⟩ := aligned.perform asked own early
    have heard : request.reports other = request.reports context := by
      obtain ⟨_⟩ := aligned
      cases request <;> rfl
    simp only [Script.run, Logged.value_bind, Logged.value_pure, answer] at still
    simp only [Script.reports, heard, answer, ih _ performed again fits still]

theorem reports (aligned : context.Aligned tasks other) (asked : tasks.asked context.process.pid)
    {routine : Routine} (fits : ∀ request ∈ routine.requests context, Fits tasks request)
    (still : tasks.allowed (routine.run context).value.1.processes
      (routine.run other).value.1.processes) :
    routine.reports other = routine.reports context := by
  have same : routine.scriptIn other = routine.scriptIn context := by
    obtain ⟨_⟩ := aligned
    rfl
  rw [Routine.value_run, Routine.value_run, same] at still
  rw [Routine.reports, Routine.reports, same]
  exact aligned.reports_script asked fits still

end Context.Aligned

theorem Engine.Correspondence.Alike.reports {kinds : Engine.Correspondence} {first second : Engine}
    (alike : kinds.Alike first second) {task : Task} (covers : kinds.Covers first (.event (.openExit task)))
    (still : kinds.Allowed (first.exitOpen task).value.1 (second.exitOpen task).value.1) :
    second.reports (.event (.openExit task)) = first.reports (.event (.openExit task)) := by
  obtain ⟨_, same⟩ := alike.resolveOpen covers (allowed_resolveOpen still)
  rw [value_exitOpen, value_exitOpen] at still
  rw [Engine.reports, Engine.reports]
  generalize (first.resolveOpen task).value = result at same still ⊢
  generalize (second.resolveOpen task).value = other at same still ⊢
  obtain ⟨later, resolution⟩ := result
  obtain ⟨others, resolution⟩ := other
  cases same with
  | passed => rfl
  | called aligned asked fits => exact aligned.reports asked fits still.tracker.processes

namespace Routine.IsSolitary

variable {routine : Routine} {context : Context} {reporter : Reporter}

theorem scriptIn_reporting (solitary : routine.IsSolitary) (context : Context) (reporter : Reporter)
    (memory : List ScriptRun) :
    routine.scriptIn (context.reporting reporter memory) = routine.scriptIn context :=
  (solitary.forgetful memory _).trans (solitary.forgetful context.memory _).symm

/-- Of all that a routine is shown of the reporter and of earlier calls, only the mode matters to it. -/
theorem run_reporting (solitary : routine.IsSolitary)
    (mode : reporter.mode = context.reporter.mode) (memory : List ScriptRun) :
    (routine.run (context.reporting reporter memory)).value.1 =
        (routine.run context).value.1.reporting
          ((routine.reports context).foldl Reporter.enforced reporter) memory ∧
      routine.reports (context.reporting reporter memory) = routine.reports context := by
  rw [value_run, value_run, reports, reports, solitary.scriptIn_reporting]
  obtain ⟨ran, heard⟩ := (routine.scriptIn context).run_reporting context mode memory
  exact ⟨congrArg Prod.fst ran, heard⟩

end Routine.IsSolitary

namespace OpenSlot

variable {tids : UInt32 → Prop} {first second third slot later : OpenSlot}

inductive Shares (tids : UInt32 → Prop) : OpenSlot → OpenSlot → Prop where
  | perThread {first second : Table UInt32 OpenFlags} (shares : first.Shares tids second) :
      Shares tids (.perThread first) (.perThread second)

namespace Shares

theorem symm (shares : first.Shares tids second) : second.Shares tids first := by
  obtain ⟨shares⟩ := shares
  exact .perThread shares.symm

theorem trans (shares : first.Shares tids second) (again : second.Shares tids third) :
    first.Shares tids third := by
  obtain ⟨shares⟩ := shares
  obtain ⟨again⟩ := again
  exact .perThread (shares.trans again)

theorem waiting (shares : first.Shares tids second) {tid : UInt32} (member : tids tid) :
    second.waiting? tid = first.waiting? tid := by
  obtain ⟨shares⟩ := shares
  simpa using shares.found tid member

theorem of_waiting (shares : first.Shares tids second) {all : UInt32 → Prop}
    (waiting : ∀ tid, all tid → second.waiting? tid = first.waiting? tid) :
    first.Shares all second := by
  obtain ⟨shares⟩ := shares
  exact .perThread (shares.of_found (by simpa using waiting))

theorem mode (shares : first.Shares tids second) : first.mode = .perThread := by
  obtain ⟨_⟩ := shares
  rfl

theorem of_alike {early late : Nat} (alike : first.Alike (Table.sharing tids early late) second)
    (threaded : first.mode = .perThread) : first.Shares tids second := by
  cases alike with
  | perThread related => exact .perThread related.1
  | shared => cases threaded

theorem of_follows (follows : slot.Follows later) (threaded : slot.mode = .perThread)
    (linked : ∀ table, slot = .perThread table → table.Each Shard.Linked)
    (waiting : ∀ tid, tids tid → later.waiting? tid = slot.waiting? tid) :
    slot.Shares tids later := by
  cases follows with
  | shared => cases threaded
  | perThread follows =>
    exact .perThread (.of_follows follows (linked _ rfl) (by simpa using waiting))

end Shares

end OpenSlot

namespace Engine

variable {engine first second third : Engine} {tids : UInt32 → Prop} {event : KernelEvent} {tid : UInt32}

def handled (engine : Engine) (events : List KernelEvent) : Engine :=
  engine.after (events.map .event)

/-- Neither a record of a process nor captured arguments give way while the events are handled. -/
structure Spares (engine : Engine) (events : List KernelEvent) : Prop where
  processes : (engine.handled events).processes.evicted = engine.processes.evicted
  captures : (engine.handled events).slot.evicted = engine.slot.evicted

structure Shares (tids : UInt32 → Prop) (first second : Engine) : Prop where
  processes : first.processes.Shares tids second.processes
  profiles : first.profiles.Shares (fun _ => True) second.profiles
  slot : first.slot.Shares tids second.slot
  dispatch : second.dispatch = first.dispatch
  mode : second.mode = first.mode

namespace Shares

theorem symm (shares : first.Shares tids second) : second.Shares tids first :=
  ⟨shares.processes.symm, shares.profiles.symm, shares.slot.symm, shares.dispatch.symm,
    shares.mode.symm⟩

theorem trans (shares : first.Shares tids second) (again : second.Shares tids third) :
    first.Shares tids third :=
  ⟨shares.processes.trans again.processes, shares.profiles.trans again.profiles,
    shares.slot.trans again.slot, again.dispatch.trans shares.dispatch, again.mode.trans shares.mode⟩

theorem join {others : UInt32 → Prop} (shares : first.Shares tids second)
    (again : first.Shares others second) (either : ∀ tid, tids tid ∨ others tid) :
    first.Shares (fun _ => True) second where
  processes := shares.processes.of_found fun tid _ =>
    (either tid).elim (shares.processes.found tid) (again.processes.found tid)
  profiles := shares.profiles
  slot := shares.slot.of_waiting fun tid _ => (either tid).elim shares.slot.waiting again.slot.waiting
  dispatch := shares.dispatch
  mode := shares.mode

end Shares

/-! ## What an event leaves alone -/

/-- The exit of an open call changes no record but that of its caller, if the routine that is called is
solitary. -/
theorem find?_exitOpen_of_solitary (sound : engine.Sound) {task : Task}
    (numbered : ∀ record, engine.processes.find? task.tid = some record → record.pid = task.tid)
    (solitary : ∀ record profile routine, engine.processes.find? task.tid = some record →
      record.isConfined = true → engine.profiles.find? record.profileKey = some profile →
      engine.dispatch.get? profile.index = some routine → routine.IsSolitary)
    (other : tid ≠ task.tid) :
    (engine.exitOpen task).value.1.processes.find? tid = engine.processes.find? tid := by
  have looked := sound.tasks.find?_lookup task.tid tid
  have bounded := (engine.processes.follows_lookup task.tid).bounded sound.tasks
  have resolved := engine.resolved_resolveOpen task
  rw [value_exitOpen]
  generalize (engine.resolveOpen task).value = result at resolved
  cases resolved with
  | passed | consulted => exact looked
  | @called process profile routine present confined loaded registered =>
    have solitary := solitary process profile routine present confined loaded registered
    have apart : tid ≠ process.pid := by rwa [numbered process present]
    exact (solitary.find?_run bounded apart).trans looked

theorem ReachableBy.find?_exitOpen (reachable : engine.ReachableBy Routine.IsSolitary) {task : Task}
    (other : tid ≠ task.tid) :
    (engine.exitOpen task).value.1.processes.find? tid = engine.processes.find? tid :=
  find?_exitOpen_of_solitary reachable.reachable.linked.sound
    (fun _ => (reachable.imp fun _ => Routine.IsSolitary.isRestrained).numbered)
    (fun _ _ _ _ _ _ => reachable.each _ _) other

theorem find?_next_outside (reachable : engine.ReachableBy Routine.IsSolitary)
    (spares : engine.Spares [event]) (outside : tid ∉ event.tids) :
    (engine.next (.event event)).processes.find? tid = engine.processes.find? tid := by
  have sound := reachable.reachable.linked.sound
  cases event with
  | processCreate parent child group =>
    rcases Tracker.kept_create sound.tasks spares.processes tid with ⟨rfl, _⟩ | same
    · simp [KernelEvent.tids] at outside
    · exact same
  | programLoad loader executable =>
    rw [find?_next_load sound, if_neg]
    rintro ⟨rfl, _⟩
    simp [KernelEvent.tids] at outside
  | processExit gone =>
    rw [find?_next_exit sound, if_neg]
    rintro rfl
    simp [KernelEvent.tids] at outside
  | openEntry task flags =>
    change (engine.enterOpen task flags).value.1.processes.find? tid = _
    rw [processes_enterOpen, sound.tasks.find?_lookup]
  | openExit task =>
    exact reachable.find?_exitOpen (by simpa [KernelEvent.tids] using outside)

theorem waiting?_next_outside (threaded : engine.slot.Threaded) (spares : engine.Spares [event])
    (outside : tid ∉ event.tids) :
    (engine.next (.event event)).slot.waiting? tid = engine.slot.waiting? tid := by
  cases event with
  | openEntry task flags =>
    have other : tid ≠ task.tid := by simpa [KernelEvent.tids] using outside
    have captures := spares.captures
    have entered := entered_next threaded task flags
    generalize (engine.enterOpen task flags).value.2 = answer at entered
    cases entered with
    | untracked _ same => rw [same]
    | tracked _ captured =>
      cases captured with
      | refused _ _ same => exact same tid
      | kept _ others => exact others tid other
      | pushing _ _ _ _ evicted =>
        have same : (engine.next (.event (.openEntry task flags))).slot.evicted =
          engine.slot.evicted := captures
        omega
  | openExit task =>
    rw [waiting?_next_exit threaded, if_neg (by simpa [KernelEvent.tids] using outside)]
  | _ => rfl

theorem Linked.threaded (linked : engine.Linked) (mode : engine.slot.mode = .perThread) :
    engine.slot.Threaded := by
  cases place : engine.slot with
  | perThread table => exact .intro (Table.bounded_of_linked (linked.captures table place))
  | shared flags =>
    rw [place] at mode
    cases mode

theorem shares_next (reachable : engine.ReachableBy Routine.IsSolitary)
    (threaded : engine.slot.mode = .perThread) (spares : engine.Spares [event]) :
    engine.Shares (· ∉ event.tids) (engine.next (.event event)) where
  processes := .of_follows (follows_processes reachable.reachable.linked.sound.tasks _)
    reachable.reachable.linked.processes fun tid outside => find?_next_outside reachable spares outside
  profiles := by
    have sound := reachable.reachable.linked.sound
    refine .of_follows (follows_profiles sound.tasks _) reachable.reachable.linked.profiles fun key _ => ?_
    have retained : Table.Retained id engine.profiles (engine.next (.event event)).profiles :=
      retained_profiles sound.tasks rfl
    simpa using retained.found sound.profiles key
  slot := by
    refine .of_follows (engine.follows_slot _) threaded reachable.reachable.linked.captures fun tid outside => ?_
    exact waiting?_next_outside (reachable.reachable.linked.threaded threaded) spares outside
  dispatch := dispatch_next_outside rfl
  mode := engine.mode_next _

/-! ## Where nothing depends on the reporter but what it is told -/

def reporting (engine : Engine) (reporter : Reporter) (scriptRuns : List ScriptRun) : Engine :=
  { engine with reporter, scriptRuns }

theorem resolveOpen_reporting (engine : Engine) (reporter : Reporter) (scriptRuns : List ScriptRun)
    (task : Task) :
    ((engine.reporting reporter scriptRuns).resolveOpen task).value =
      ((engine.resolveOpen task).value.1.reporting reporter scriptRuns,
        (engine.resolveOpen task).value.2.reporting reporter scriptRuns) := by
  unfold resolveOpen processes profiles reporting
  dsimp only
  split
  · rfl
  · split
    · split
      · rfl
      · split
        · rfl
        · rfl
    · rfl

theorem runRoutine_reporting (engine : Engine) {routine : Routine} (solitary : routine.IsSolitary)
    (context : Context) {reporter : Reporter} (mode : reporter.mode = context.reporter.mode)
    (scriptRuns : List ScriptRun) :
    ∃ later runs, ((engine.reporting reporter scriptRuns).runRoutine routine
        (context.reporting reporter scriptRuns)).value =
      ((engine.runRoutine routine context).value.1.reporting later runs,
        (engine.runRoutine routine context).value.2) := by
  obtain ⟨ran, _⟩ := solitary.run_reporting mode scriptRuns
  simp only [runRoutine, Logged.value_bind, Logged.value_pure, ran]
  exact ⟨_, _, rfl⟩

/-- Another state of enforcement of the same mode makes no difference but to itself. -/
theorem handle_reporting (each : engine.dispatch.Each Routine.IsSolitary) {reporter : Reporter}
    (mode : reporter.mode = engine.mode) (scriptRuns : List ScriptRun) (event : KernelEvent) :
    ∃ later runs, ((engine.reporting reporter scriptRuns).handle event).value =
      ((engine.handle event).value.1.reporting later runs, (engine.handle event).value.2) := by
  cases event with
  | openEntry task flags =>
    refine ⟨reporter, scriptRuns, ?_⟩
    unfold handle enterOpen processes reporting
    dsimp only
    split
    · rfl
    · rfl
  | openExit task =>
    have resolved := engine.resolved_resolveOpen task
    simp only [handle, Logged.value_bind, Logged.value_pure]
    rw [value_exitOpen, value_exitOpen, resolveOpen_reporting]
    generalize (engine.resolveOpen task).value = result at resolved
    cases resolved with
    | passed | consulted => exact ⟨reporter, scriptRuns, rfl⟩
    | @called process profile routine present confined loaded registered =>
      have solitary := each _ _ registered
      have ran := runRoutine_reporting ((engine.left task).consulted process.profileKey) solitary
        (engine.contextOf task process profile) mode scriptRuns
      obtain ⟨later, runs, ran⟩ := ran
      exact ⟨later, runs, congrArg (fun result : Engine × Verdict =>
        (result.1, Except.ok (Outcome.opened (.dispatched profile.index result.2)))) ran⟩
  | _ => exact ⟨reporter, scriptRuns, rfl⟩

theorem reports_reporting (each : engine.dispatch.Each Routine.IsSolitary) {reporter : Reporter}
    (mode : reporter.mode = engine.mode) (scriptRuns : List ScriptRun) (operation : Operation) :
    (engine.reporting reporter scriptRuns).reports operation = engine.reports operation := by
  unfold reports
  split
  · next task =>
    have resolved := engine.resolved_resolveOpen task
    rw [resolveOpen_reporting]
    generalize (engine.resolveOpen task).value = result at resolved
    cases resolved with
    | passed | consulted => rfl
    | called present confined loaded registered =>
      exact ((each _ _ registered).run_reporting mode scriptRuns).2
  · rfl

/-! ## What an event depends on -/

def sharing (tids : UInt32 → Prop) (first second : Engine) : Correspondence :=
  ⟨Table.sharing tids first.processes.evicted second.processes.evicted,
    Table.sharing (fun _ => True) first.profiles.evicted second.profiles.evicted,
    Table.sharing tids first.slot.evicted second.slot.evicted⟩

namespace Shares

theorem alike (shares : first.Shares tids second) :
    (sharing tids first second).Alike first
      (second.reporting first.reporter first.scriptRuns) where
  tracker := ⟨⟨shares.processes, Nat.le_refl _, Nat.le_refl _⟩,
    shares.profiles, Nat.le_refl _, Nat.le_refl _⟩
  slot := by
    have slot := shares.slot
    change first.slot.Alike (Table.sharing tids first.slot.evicted second.slot.evicted) second.slot
    generalize first.slot = early at slot
    generalize second.slot = late at slot
    obtain ⟨shares⟩ := slot
    exact .perThread ⟨shares, Nat.le_refl _, Nat.le_refl _⟩
  dispatch := shares.dispatch
  reporter := rfl
  scriptRuns := rfl

theorem covers (reachable : first.ReachableBy Routine.IsSolitary) (inside : ∀ tid ∈ event.tids, tids tid)
    (second : Engine) : (sharing tids first second).Covers first (.event event) := by
  cases event with
  | processCreate parent child group =>
    have members : tids parent ∧ tids child := by simpa [KernelEvent.tids] using inside
    exact members
  | programLoad tid executable =>
    have member : tids tid := by simpa [KernelEvent.tids] using inside
    exact ⟨member, trivial⟩
  | processExit tid =>
    have member : tids tid := by simpa [KernelEvent.tids] using inside
    exact member
  | openEntry task flags =>
    have member : tids task.tid := by simpa [KernelEvent.tids] using inside
    exact ⟨member, fun _ => member⟩
  | openExit task =>
    have member : tids task.tid := by simpa [KernelEvent.tids] using inside
    refine ⟨member, member, fun record present => ?_⟩
    have numbered := (reachable.imp fun _ => Routine.IsSolitary.isRestrained).numbered present
    have asked : tids record.pid := numbered ▸ member
    exact ⟨asked, trivial, fun profile routine _ _ registered =>
      (((reachable.each _ _ registered).own _ _).imp fun _ =>
        Context.Aligned.fits_of_isOwn asked).requests _⟩

theorem allowed (tids : UInt32 → Prop) (sound : first.Sound) (other : second.Sound)
    (spares : first.Spares [event]) (again : second.Spares [event]) :
    (sharing tids first second).Allowed (first.next (.event event)) (second.next (.event event)) where
  tracker := by
    have profiles {engine : Engine} (sound : engine.Sound) :
        (engine.next (.event event)).profiles.evicted ≤ engine.profiles.evicted :=
      Nat.le_of_eq (retained_profiles sound.tasks rfl).evicted
    exact ⟨⟨Nat.le_of_eq spares.processes, Nat.le_of_eq again.processes⟩, profiles sound, profiles other⟩
  slot := by
    rintro table others same different
    have early := spares.captures
    have late := again.captures
    rw [handled, List.map_singleton, after_singleton] at early late
    rw [same] at early
    rw [different] at late
    exact ⟨Nat.le_of_eq early, Nat.le_of_eq late⟩

theorem still (shares : first.Shares tids second) (reachable : first.ReachableBy Routine.IsSolitary)
    (other : second.ReachableBy Routine.IsSolitary) (spares : first.Spares [event])
    (again : second.Spares [event]) :
    (sharing tids first second).Allowed (first.next (.event event))
      ((second.reporting first.reporter first.scriptRuns).next (.event event)) := by
  obtain ⟨later, runs, handled⟩ := handle_reporting other.each shares.mode.symm first.scriptRuns event
  have allowed := allowed tids reachable.reachable.linked.sound other.reachable.linked.sound spares again
  change (sharing tids first second).Allowed (first.next (.event event))
    ((second.reporting first.reporter first.scriptRuns).handle event).value.1
  rw [handled]
  exact ⟨allowed.tracker, allowed.slot⟩

/-- Engines that agree on the tasks of an event answer it alike, and go on to agree on all tasks that they
agreed on. -/
theorem next (shares : first.Shares tids second) (reachable : first.ReachableBy Routine.IsSolitary)
    (other : second.ReachableBy Routine.IsSolitary) (inside : ∀ tid ∈ event.tids, tids tid)
    (spares : first.Spares [event]) (again : second.Spares [event]) :
    (second.perform (.event event)).value.2 = (first.perform (.event event)).value.2 ∧
      (first.next (.event event)).Shares tids (second.next (.event event)) := by
  obtain ⟨later, runs, handled⟩ := handle_reporting other.each shares.mode.symm first.scriptRuns event
  have agreed := shares.alike.handle (covers reachable inside second)
    (shares.still reachable other spares again)
  rw [handled] at agreed
  obtain ⟨alike, answer⟩ := agreed
  refine ⟨congrArg (Response.ofResult .outcome) answer, ?_⟩
  have mode : (second.next (.event event)).mode = (first.next (.event event)).mode := by
    rw [mode_next, mode_next]
    exact shares.mode
  have threaded : (first.next (.event event)).slot.mode = .perThread :=
    (first.follows_slot _).mode.trans shares.slot.mode
  exact ⟨alike.tracker.processes.1, alike.tracker.profiles.1, .of_alike alike.slot threaded,
    alike.dispatch, mode⟩

theorem reports (shares : first.Shares tids second) (reachable : first.ReachableBy Routine.IsSolitary)
    (other : second.ReachableBy Routine.IsSolitary) (inside : ∀ tid ∈ event.tids, tids tid)
    (spares : first.Spares [event]) (again : second.Spares [event]) :
    second.reports (.event event) = first.reports (.event event) := by
  cases event with
  | openExit task =>
    have still := shares.still reachable other spares again
    rw [← reports_reporting other.each shares.mode.symm first.scriptRuns]
    exact shares.alike.reports (covers reachable inside second) still
  | _ => rfl

end Shares

end Engine

end Confinement
