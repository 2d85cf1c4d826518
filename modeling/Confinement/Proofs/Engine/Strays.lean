import Confinement.Engine.Outline
import Confinement.Proofs.Engine.Captures
import Confinement.Proofs.Engine.Departures
import Confinement.Proofs.Table.Lagging

/-! Why events of tasks that are not tracked leave no trace.

Such an event is not quite without effect: it asks for a record that is not there, and the question counts
as a use of the table. But it changes no record and not the order in which they were used, so nothing that
the engine says or does later tells whether there was such an event.
-/

set_option autoImplicit false

namespace Confinement

inductive Padding where
  | own (operation : Operation)
  | stray (event : KernelEvent) (outcome : Outcome)

namespace Padding

def operation : Padding → Operation
  | own operation => operation
  | stray event _ => .event event

def own? : Padding → Option Operation
  | own operation => some operation
  | stray _ _ => none

def answers : List Padding → List Response → List Response
  | own _ :: rest, answer :: later => answer :: answers rest later
  | stray _ outcome :: rest, later => .outcome outcome :: answers rest later
  | _, _ => []

end Padding

namespace OpenSlot

variable {first second slot : OpenSlot} {tid : UInt32}

theorem Alike.threaded {captures : Table.Correspondence UInt32 OpenFlags}
    (alike : first.Alike captures second) (mode : second.mode = .perThread) : second.Threaded := by
  cases alike with
  | perThread related => exact .intro (captures.bounded related).2
  | shared => cases mode

/-- Nothing is taken from a place where nothing waits, nor from a shared one. -/
theorem take_empty (threaded : slot.mode = .perThread → slot.Threaded)
    (empty : slot.mode = .perThread → slot.waiting? tid = none) : (slot.take tid).1 = slot := by
  cases slot with
  | shared flags => rfl
  | perThread table =>
    obtain ⟨bounded⟩ := threaded rfl
    have absent := empty rfl
    rw [waiting?_perThread] at absent
    exact congrArg perThread (Table.delete_absent bounded absent)

end OpenSlot

namespace Engine

variable {engine first second : Engine}

/-- The event is of a task that is not tracked, and then this is what becomes of it. -/
inductive Stray (engine : Engine) : KernelEvent → Outcome → Prop where
  | load {tid : UInt32} (untracked : engine.processes.find? tid = none) (executable : Executable) :
      Stray engine (.programLoad tid executable) (.load .untracked)
  | exit {tid : UInt32} (untracked : engine.processes.find? tid = none) :
      Stray engine (.processExit tid) (.exited false)
  | entry {task : Task} (untracked : engine.processes.find? task.tid = none) (flags : OpenFlags) :
      Stray engine (.openEntry task flags) (.captured false)
  | leave {task : Task} (untracked : engine.processes.find? task.tid = none)
      (empty : engine.slot.mode = .perThread → engine.slot.waiting? task.tid = none) :
      Stray engine (.openExit task) (.opened .passThrough)

def Strays : Engine → List Padding → Prop
  | _, [] => True
  | engine, .own operation :: rest => (engine.next operation).Strays rest
  | engine, .stray event outcome :: rest => engine.Stray event outcome ∧ engine.Strays rest

/-- The engines keep the same, as far as anyone can tell: only how often their processes were asked for
may differ. -/
structure Matches (first second : Engine) : Prop where
  config : second.config = first.config
  /-- The same records in the same order of use, and as many that were evicted. -/
  processes : second.processes.recency = first.processes.recency
  record : ∀ tid, second.processes.find? tid = first.processes.find? tid
  profiles : second.profiles = first.profiles
  dispatch : second.dispatch = first.dispatch
  reporter : second.reporter = first.reporter
  slot : second.slot = first.slot
  scriptRuns : second.scriptRuns = first.scriptRuns
  stats : second.stats = first.stats

/-! ## Engines whose processes were asked for more or less often -/

def asking : Correspondence :=
  ⟨Table.lagging, Table.recounted 0, Table.recounted 0⟩

/-- Whatever a routine asks for, how often processes were asked for before does not show. -/
theorem asking_fits (request : Request) : Context.Aligned.Fits asking.tasks request := by
  cases request with
  | table operation => cases operation <;> trivial
  | _ => trivial

theorem asking_covers (engine : Engine) (operation : Operation) : asking.Covers engine operation := by
  cases operation with
  | event event =>
    cases event with
    | openExit task =>
      exact ⟨trivial, trivial, fun _ _ => ⟨trivial, trivial, fun _ _ _ _ _ request _ =>
        asking_fits request⟩⟩
    | _ => simp [Correspondence.Covers, asking, Table.lagging, Table.recounted]
  | _ => simp [Correspondence.Covers, asking, Table.recounted]

theorem asking_allowed (fresh : second.processes.Unwrapped) : asking.Allowed first second :=
  ⟨⟨fresh, trivial⟩, fun _ _ _ _ => trivial⟩

theorem asking_refl (linked : engine.Linked) (ordered : engine.processes.Ordered) :
    asking.Alike engine engine where
  tracker := ⟨ordered.lags, rfl, linked.sound.profiles⟩
  slot := (alike_recount linked 0 0).slot
  dispatch := rfl
  reporter := rfl
  scriptRuns := rfl

theorem matches_of_asking (alike : asking.Alike first second) (config : second.config = first.config) :
    first.Matches second := by
  have lags : first.processes.Lags second.processes := alike.tracker.processes
  have profiles : second.profiles = first.profiles := alike.tracker.profiles.1
  have evictions : second.processes.evictions = first.processes.evictions := by
    rw [Table.evictions, Table.evictions, lags.evicted]
  refine ⟨config, lags.recency, lags.found, profiles, alike.dispatch, alike.reporter,
    eq_of_alike alike.slot, alike.scriptRuns, ?_⟩
  rw [stats, stats, lags.size, profiles, alike.dispatch, evictions, alike.reporter, bus, bus,
    alike.reporter]

/-! ## Stray events -/

def asked (engine : Engine) (tid : UInt32) : Engine :=
  { engine with tracker := { engine.tracker with processes := (engine.processes.lookup tid).1 } }

theorem Stray.handle {event : KernelEvent} {outcome : Outcome} (stray : engine.Stray event outcome)
    (bounded : engine.processes.Bounded) (threaded : engine.slot.mode = .perThread → engine.slot.Threaded) :
    ∃ later, (engine.handle event).value = (later, .ok outcome) ∧
      (later = engine ∨ ∃ tid, engine.processes.find? tid = none ∧ later = engine.asked tid) := by
  cases stray with
  | @load tid untracked executable =>
    refine ⟨engine.asked tid, ?_, .inr ⟨tid, untracked, rfl⟩⟩
    simp only [Engine.handle, Logged.value_bind, Logged.value_pure,
      Tracker.load_untracked untracked executable]
    rfl
  | @exit tid untracked =>
    have removed : engine.tracker.processes.delete tid = (engine.tracker.processes, none) :=
      Prod.ext (Table.delete_absent bounded untracked)
        ((Table.answer_delete _ _).trans untracked)
    refine ⟨engine, ?_, .inl rfl⟩
    simp only [Engine.handle, Tracker.exit, Logged.value_bind, Logged.value_pure, removed,
      Option.isSome_none]
  | @entry task untracked flags =>
    refine ⟨engine.asked task.tid, ?_, .inr ⟨task.tid, untracked, rfl⟩⟩
    simp only [Engine.handle, Logged.value_bind, Logged.value_pure,
      enterOpen_untracked untracked flags]
    rfl
  | @leave task untracked empty =>
    refine ⟨engine.asked task.tid, ?_, .inr ⟨task.tid, untracked, rfl⟩⟩
    simp only [Engine.handle, Logged.value_bind, Logged.value_pure, value_exitOpen,
      resolveOpen_untracked untracked, left, OpenSlot.take_empty threaded empty]
    rfl

theorem Stray.alike {event : KernelEvent} {outcome : Outcome} (stray : first.Stray event outcome)
    (alike : asking.Alike first second) :
    asking.Alike first (second.next (.event event)) ∧
      (second.perform (.event event)).value.2 = .outcome outcome := by
  have lags : first.processes.Lags second.processes := alike.tracker.processes
  have slot := eq_of_alike alike.slot
  have again : second.Stray event outcome := by
    cases stray with
    | load untracked executable => exact .load ((lags.found _).trans untracked) executable
    | exit untracked => exact .exit ((lags.found _).trans untracked)
    | entry untracked flags => exact .entry ((lags.found _).trans untracked) flags
    | leave untracked empty => exact .leave ((lags.found _).trans untracked) (by rwa [slot])
  obtain ⟨later, handled, same⟩ := again.handle lags.other.bounded alike.slot.threaded
  have performed : (second.perform (.event event)).value = (later, .outcome outcome) := by
    simp only [Engine.perform, Logged.value_bind, Logged.value_pure, handled]
    rfl
  rw [next, performed]
  refine ⟨?_, rfl⟩
  rcases same with rfl | ⟨tid, untracked, rfl⟩
  · exact alike
  · exact { alike with
      tracker := ⟨lags.idle ((lags.found tid).symm.trans untracked), alike.tracker.profiles⟩ }

/-! ## Runs -/

theorem Strays.of_append {early late : List Padding} (strays : engine.Strays (early ++ late)) :
    engine.Strays early := by
  induction early generalizing engine with
  | nil => trivial
  | cons step rest ih =>
    cases step with
    | own operation => exact ih strays
    | stray event outcome => exact ⟨strays.1, ih strays.2⟩

/-- A run stays alike to the one that events of untracked tasks are put into. -/
theorem Strays.run {steps : List Padding} (strays : first.Strays steps)
    (alike : asking.Alike first second)
    (fresh : (second.after (steps.map Padding.operation)).processes.Unwrapped) :
    asking.Alike (first.after (steps.filterMap Padding.own?))
        (second.after (steps.map Padding.operation)) ∧
      (second.run (steps.map Padding.operation)).value.2 =
        Padding.answers steps (first.run (steps.filterMap Padding.own?)).value.2 := by
  induction steps generalizing first second with
  | nil => exact ⟨alike, rfl⟩
  | cons step rest ih =>
    cases step with
    | own operation =>
      have sound := alike.sound.2.next operation
      have early : (second.next operation).processes.Unwrapped :=
        (follows_processes_after sound (rest.map Padding.operation)).unwrapped fresh
      obtain ⟨next, answer⟩ := alike.perform (asking_covers _ _) (asking_allowed early)
      obtain ⟨later, answers⟩ := ih strays next fresh
      exact ⟨later, congrArg₂ List.cons answer answers⟩
    | stray event outcome =>
      obtain ⟨next, answer⟩ := strays.1.alike alike
      obtain ⟨later, answers⟩ := ih strays.2 next fresh
      exact ⟨later, congrArg₂ List.cons answer answers⟩

/-- Events of untracked tasks that are put into a run have no outcomes but these, and from then on nothing
tells that there were any. -/
theorem matches_of_strays (reachable : engine.Reachable) {steps : List Padding}
    (strays : engine.Strays steps)
    (fresh : (engine.after (steps.map Padding.operation)).processes.Unwrapped) :
    (engine.run (steps.map Padding.operation)).value.2 =
        Padding.answers steps (engine.run (steps.filterMap Padding.own?)).value.2 ∧
      ∀ early, early <+: steps →
        (engine.after (early.filterMap Padding.own?)).Matches
          (engine.after (early.map Padding.operation)) := by
  have linked := reachable.linked
  have start : engine.processes.Unwrapped :=
    (follows_processes_after linked.sound (steps.map Padding.operation)).unwrapped fresh
  have alike := asking_refl linked (reachable.ordered start)
  refine ⟨(strays.run alike fresh).2, ?_⟩
  rintro early ⟨late, rfl⟩
  have sound := (reachable.after (early.map Padding.operation)).linked.sound
  have before : (engine.after (early.map Padding.operation)).processes.Unwrapped := by
    rw [List.map_append, after_append] at fresh
    exact (follows_processes_after sound (late.map Padding.operation)).unwrapped fresh
  refine matches_of_asking (strays.of_append.run alike before).1 ?_
  rw [config_after, config_after]

def straysRun : List Padding :=
  .stray (.programLoad 9 ⟨0, 5⟩) (.load .untracked) ::
    (confinedRun (.described .denyAll)).map .own ++
    [.stray (.openEntry ⟨9, 9⟩ (.forOpen 1 0)) (.captured false),
      .stray (.openExit ⟨9, 9⟩) (.opened .passThrough), .own (.event (.processCreate 7 10 10)),
      .stray (.processExit 9) (.exited false)]

theorem matches_of_strays_unknown :
    pair.Strays straysRun ∧
      (pair.after (straysRun.map Padding.operation)).processes.Unwrapped ∧
      (pair.run (straysRun.map Padding.operation)).value.2 =
        Padding.answers straysRun (pair.run (straysRun.filterMap Padding.own?)).value.2 ∧
      ∀ early, early <+: straysRun →
        (pair.after (early.filterMap Padding.own?)).Matches
          (pair.after (early.map Padding.operation)) :=
  have strays : pair.Strays straysRun :=
    ⟨.load (by decide +kernel) _, .entry (by decide +kernel) _,
      .leave (by decide +kernel) (by decide +kernel), .exit (by decide +kernel), trivial⟩
  have fresh : (pair.after (straysRun.map Padding.operation)).processes.Unwrapped := by
    decide +kernel
  ⟨strays, fresh, matches_of_strays
    ⟨⟨2, 2, 1, .audit, .perThread, 1⟩, .recording, .direct, [], rfl, rfl⟩ strays fresh⟩

end Engine

end Confinement
