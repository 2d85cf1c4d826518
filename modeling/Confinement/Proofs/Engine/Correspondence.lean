import Confinement.Proofs.Engine.History
import Confinement.Proofs.Table.Correspondence

/-! Two engines side by side, whose tables correspond.

An engine reads its tables by what it finds in them, and by what they answer when a record is put. So if
the tables of two engines are alike in a way that every use keeps, and all else is the same, then the two
decide, report and answer the same, and stay alike.
-/

set_option autoImplicit false

namespace Confinement

/-! ## Routines -/

/-- The contexts differ in the table of processes alone, and there they are alike. -/
inductive Context.Aligned (tasks : Table.Correspondence UInt32 ProcessState) (context : Context) :
    Context → Prop where
  | intro {processes : ProcessTable} (related : tasks.alike context.processes processes) :
      Aligned tasks context { context with processes }

namespace Context.Aligned

variable {tasks : Table.Correspondence UInt32 ProcessState} {context other : Context}

theorem related (aligned : context.Aligned tasks other) :
    tasks.alike context.processes other.processes := by
  obtain ⟨related⟩ := aligned
  exact related

theorem kept (aligned : context.Aligned tasks other) :
    other.reporter = context.reporter ∧ other.verdict = context.verdict ∧
      other.profile = context.profile := by
  obtain ⟨_⟩ := aligned
  exact ⟨rfl, rfl, rfl⟩

theorem setTainted (aligned : context.Aligned tasks other) (asked : tasks.asked context.process.pid)
    {tainted : Bool} (still : tasks.allowed (context.setTainted tainted).1.processes
      (other.setTainted tainted).1.processes) :
    (context.setTainted tainted).1.Aligned tasks (other.setTainted tainted).1 ∧
      (other.setTainted tainted).2 = (context.setTainted tainted).2 := by
  obtain ⟨related⟩ := aligned
  rw [Context.processes_setTainted, Context.processes_setTainted] at still
  have modified := tasks.modify related asked _ still
  unfold Context.setTainted
  simp only [Table.answer_modify, tasks.found related asked]
  split
  · exact ⟨.intro modified, rfl⟩
  · exact ⟨.intro modified, rfl⟩

theorem deny (aligned : context.Aligned tasks other) :
    context.deny.value.1.Aligned tasks other.deny.value.1 ∧
      other.deny.value.2 = context.deny.value.2 := by
  obtain ⟨related⟩ := aligned
  exact ⟨.intro related, rfl⟩

def Fits (tasks : Table.Correspondence UInt32 ProcessState) : Request → Prop
  | .write situation => tasks.asked situation.process.pid
  | .table operation => tasks.Permits operation
  | _ => True

theorem fits_of_isPlain {request : Request} (plain : request.IsPlain) : Fits tasks request := by
  cases request <;> trivial

theorem fits_of_isOwn {tid : UInt32} (asked : tasks.asked tid) {request : Request}
    (own : request.IsOwn tid) : Fits tasks request := by
  cases request with
  | write situation =>
    obtain rfl := own
    exact asked
  | table operation =>
    cases operation with
    | lookup key | contains key | delete key =>
      obtain rfl := own
      exact asked
    | modify key change =>
      obtain ⟨rfl, _⟩ := own
      exact asked
    | update | clear | size | evictions => exact own.elim
  | _ => trivial

theorem perform (aligned : context.Aligned tasks other) (asked : tasks.asked context.process.pid)
    {request : Request} (fits : Fits tasks request)
    (still : tasks.allowed (request.perform context).value.1.processes
      (request.perform other).value.1.processes) :
    (request.perform context).value.1.Aligned tasks (request.perform other).value.1 ∧
      (request.perform other).value.2 = (request.perform context).value.2 ∧
      tasks.asked (request.perform context).value.1.process.pid := by
  cases request with
  | deny => exact ⟨aligned.deny.1, congrArg Answer.mode aligned.deny.2, asked⟩
  | setTainted tainted =>
    obtain ⟨set, changed⟩ := aligned.setTainted asked still
    refine ⟨set, congrArg Answer.changed changed, ?_⟩
    have same := context.pid_setTainted tainted
    exact same ▸ asked
  | table operation =>
    obtain ⟨related⟩ := aligned
    obtain ⟨performed, answer⟩ := tasks.perform related fits still
    exact ⟨.intro performed, congrArg Answer.table answer, asked⟩
  | write situation =>
    obtain ⟨related⟩ := aligned
    exact ⟨.intro related, rfl, fits⟩
  | read | verdict =>
    obtain ⟨related⟩ := aligned
    exact ⟨.intro related, rfl, asked⟩

theorem runScript (aligned : context.Aligned tasks other) (asked : tasks.asked context.process.pid)
    {script : Script} (fits : ∀ request ∈ script.requests context, Fits tasks request)
    (still : tasks.allowed (script.run context).value.1.processes
      (script.run other).value.1.processes) :
    (script.run context).value.1.Aligned tasks (script.run other).value.1 ∧
      (script.run other).value.2 = (script.run context).value.2 := by
  induction script generalizing context other with
  | done => exact ⟨aligned, rfl⟩
  | ask request next ih =>
    have early := tasks.allowed_of_follows (Script.follows_run (next _) _)
      (Script.follows_run (next _) _) still
    obtain ⟨own, fits⟩ := List.forall_mem_cons.mp fits
    obtain ⟨performed, answer, again⟩ := aligned.perform asked own early
    simp only [Script.run, Logged.value_bind, Logged.value_pure, answer] at still ⊢
    obtain ⟨later, answers⟩ := ih _ performed again fits still
    exact ⟨later, congrArg₂ List.cons rfl answers⟩

theorem run (aligned : context.Aligned tasks other) (asked : tasks.asked context.process.pid)
    {routine : Routine} (fits : ∀ request ∈ routine.requests context, Fits tasks request)
    (still : tasks.allowed (routine.run context).value.1.processes
      (routine.run other).value.1.processes) :
    (routine.run context).value.1.Aligned tasks (routine.run other).value.1 ∧
      (routine.run other).value.2 = (routine.run context).value.2 := by
  have same : routine.scriptIn other = routine.scriptIn context := by
    obtain ⟨_⟩ := aligned
    rfl
  rw [Routine.value_run, Routine.value_run, same] at still ⊢
  obtain ⟨later, answers⟩ := aligned.runScript asked fits still
  refine ⟨later, ?_⟩
  cases routine with
  | described spec => rfl
  | custom name script =>
    obtain ⟨_, verdict, _⟩ := later.kept
    rw [Routine.record_run, Routine.record_run]
    obtain ⟨_⟩ := aligned
    simp only [Routine.record, Option.some.injEq, ScriptRun.mk.injEq, true_and]
    exact ⟨answers, verdict⟩

end Context.Aligned

/-! ## Captured arguments -/

namespace OpenSlot

inductive Alike (captures : Table.Correspondence UInt32 OpenFlags) : OpenSlot → OpenSlot → Prop where
  | perThread {first second : Table UInt32 OpenFlags} (related : captures.alike first second) :
      Alike captures (.perThread first) (.perThread second)
  | shared {flags : Option OpenFlags} : Alike captures (.shared flags) (.shared flags)

def Allowed (captures : Table.Correspondence UInt32 OpenFlags) (first second : OpenSlot) : Prop :=
  ∀ table other, first = .perThread table → second = .perThread other → captures.allowed table other

variable {captures : Table.Correspondence UInt32 OpenFlags} {first second : OpenSlot}

theorem Allowed.of_follows {later others : OpenSlot} (still : Allowed captures later others)
    (follows : first.Follows later) (following : second.Follows others) :
    Allowed captures first second := by
  rintro table other rfl rfl
  cases follows with
  | perThread table =>
    cases following with
    | perThread other => exact captures.allowed_of_follows table other (still _ _ rfl rfl)

theorem Alike.capture (alike : first.Alike captures second) {tid : UInt32}
    (stored : captures.stored tid) {flags : OpenFlags}
    (still : Allowed captures (first.capture tid flags).value.1 (second.capture tid flags).value.1) :
    (first.capture tid flags).value.1.Alike captures (second.capture tid flags).value.1 ∧
      (second.capture tid flags).value.2 = (first.capture tid flags).value.2 := by
  cases alike with
  | perThread related =>
    obtain ⟨updated, answer⟩ := captures.update related stored flags (still _ _ rfl rfl)
    exact ⟨.perThread updated, congrArg Except.toBool answer⟩
  | shared => exact ⟨.shared, rfl⟩

theorem Alike.take (alike : first.Alike captures second) {tid : UInt32}
    (asked : captures.asked tid)
    (still : Allowed captures (first.take tid).1 (second.take tid).1) :
    (first.take tid).1.Alike captures (second.take tid).1 ∧
      (second.take tid).2 = (first.take tid).2 := by
  cases alike with
  | perThread related =>
    rw [take_perThread, take_perThread] at still ⊢
    exact ⟨.perThread (captures.delete related asked (still _ _ rfl rfl)),
      captures.found related asked⟩
  | shared => exact ⟨.shared, rfl⟩

end OpenSlot

/-! ## Tracked tasks -/

namespace Tracker

structure Alike (tasks : Table.Correspondence UInt32 ProcessState)
    (policies : Table.Correspondence ProfileKey Profile) (first second : Tracker) : Prop where
  processes : tasks.alike first.processes second.processes
  profiles : policies.alike first.profiles second.profiles

structure Allowed (tasks : Table.Correspondence UInt32 ProcessState)
    (policies : Table.Correspondence ProfileKey Profile) (first second : Tracker) : Prop where
  processes : tasks.allowed first.processes second.processes
  profiles : policies.allowed first.profiles second.profiles

namespace Alike

variable {tasks : Table.Correspondence UInt32 ProcessState}
  {policies : Table.Correspondence ProfileKey Profile} {first second : Tracker}

theorem create (alike : first.Alike tasks policies second) {parent child tgid : UInt32}
    (asked : tasks.asked parent) (stored : tasks.stored child)
    (still : (first.create parent child tgid).value.1.Allowed tasks policies
      (second.create parent child tgid).value.1) :
    (first.create parent child tgid).value.1.Alike tasks policies
        (second.create parent child tgid).value.1 ∧
      (second.create parent child tgid).value.2 = (first.create parent child tgid).value.2 := by
  have newborn : second.newborn parent child tgid = first.newborn parent child tgid := by
    rw [Tracker.newborn, Tracker.newborn, Tracker.profileOf, Tracker.profileOf,
      tasks.found alike.processes asked]
  have still := still.processes
  rw [value_create, value_create, newborn] at still ⊢
  have early := tasks.allowed_of_follows (Table.follows_update _ _ _) (Table.follows_update _ _ _) still
  have looked := tasks.lookup alike.processes asked early
  obtain ⟨updated, answer⟩ := tasks.update looked stored _ still
  refine ⟨⟨updated, alike.profiles⟩, ?_⟩
  dsimp only
  rw [answer]
  cases result : ((first.processes.lookup parent).1.update child
      (first.newborn parent child tgid)).2 with
  | ok previous => rfl
  | error failure =>
    dsimp only
    rw [Table.name_update, Table.name_update, tasks.named looked stored result]

theorem load (alike : first.Alike tasks policies second) {tid : UInt32} {executable : Executable}
    (asked : tasks.asked tid) (consulted : policies.asked executable.profileKey)
    (still : (first.load tid executable).value.1.Allowed tasks policies
      (second.load tid executable).value.1) :
    (first.load tid executable).value.1.Alike tasks policies (second.load tid executable).value.1 ∧
      (second.load tid executable).value.2 = (first.load tid executable).value.2 := by
  have tracked := tasks.found alike.processes asked
  have known := policies.found alike.profiles consulted
  obtain ⟨bounded, again⟩ := tasks.bounded alike.processes
  cases present : first.processes.find? tid with
  | none =>
    rw [load_untracked present, load_untracked (tracked.trans present)] at still ⊢
    exact ⟨⟨tasks.lookup alike.processes asked still.processes, alike.profiles⟩, rfl⟩
  | some record =>
    cases loaded : first.profiles.find? executable.profileKey with
    | none =>
      rw [load_unknown present loaded,
        load_unknown (tracked.trans present) (known.trans loaded)] at still ⊢
      exact ⟨⟨tasks.lookup alike.processes asked still.processes,
        policies.lookup alike.profiles consulted still.profiles⟩, rfl⟩
    | some profile =>
      rw [load_known bounded present loaded,
        load_known again (tracked.trans present) (known.trans loaded)] at still ⊢
      have early := tasks.allowed_of_follows (Table.follows_modify _ _ _)
        (Table.follows_modify _ _ _) still.processes
      have looked := tasks.lookup alike.processes asked early
      exact ⟨⟨tasks.modify looked asked _ still.processes,
        policies.lookup alike.profiles consulted still.profiles⟩, rfl⟩

theorem exit (alike : first.Alike tasks policies second) {tid : UInt32} (asked : tasks.asked tid)
    (still : (first.exit tid).value.1.Allowed tasks policies (second.exit tid).value.1) :
    (first.exit tid).value.1.Alike tasks policies (second.exit tid).value.1 ∧
      (second.exit tid).value.2 = (first.exit tid).value.2 := by
  have removed : (second.processes.delete tid).2 = (first.processes.delete tid).2 := by
    rw [Table.answer_delete, Table.answer_delete, tasks.found alike.processes asked]
  exact ⟨⟨tasks.delete alike.processes asked still.processes, alike.profiles⟩, removed⟩

end Alike

end Tracker

namespace Engine

structure Correspondence where
  tasks : Table.Correspondence UInt32 ProcessState
  policies : Table.Correspondence ProfileKey Profile
  captures : Table.Correspondence UInt32 OpenFlags

namespace Correspondence

structure Alike (kinds : Correspondence) (first second : Engine) : Prop where
  tracker : first.tracker.Alike kinds.tasks kinds.policies second.tracker
  slot : first.slot.Alike kinds.captures second.slot
  dispatch : second.dispatch = first.dispatch
  reporter : second.reporter = first.reporter
  scriptRuns : second.scriptRuns = first.scriptRuns

structure Allowed (kinds : Correspondence) (first second : Engine) : Prop where
  tracker : first.tracker.Allowed kinds.tasks kinds.policies second.tracker
  slot : first.slot.Allowed kinds.captures second.slot

structure Agreed {α : Type} (kinds : Correspondence) (first second : Engine × α) : Prop where
  engines : kinds.Alike first.1 second.1
  answers : second.2 = first.2

def Covers (kinds : Correspondence) (engine : Engine) : Operation → Prop
  | .event (.processCreate parent child _) => kinds.tasks.asked parent ∧ kinds.tasks.stored child
  | .event (.programLoad tid executable) =>
    kinds.tasks.asked tid ∧ kinds.policies.asked executable.profileKey
  | .event (.processExit tid) => kinds.tasks.asked tid
  | .event (.openEntry task _) =>
    kinds.tasks.asked task.tid ∧
      (engine.processes.find? task.tid ≠ none → kinds.captures.stored task.tid)
  | .event (.openExit task) =>
    kinds.tasks.asked task.tid ∧ kinds.captures.asked task.tid ∧
      ∀ record, engine.processes.find? task.tid = some record →
        kinds.tasks.asked record.pid ∧ kinds.policies.asked record.profileKey ∧
          ∀ profile routine, record.isConfined = true →
            engine.profiles.find? record.profileKey = some profile →
            engine.dispatch.get? profile.index = some routine →
            ∀ request ∈ routine.requests (engine.contextOf task record profile),
              Context.Aligned.Fits kinds.tasks request
  | .addProfile key _ | .install key _ _ => kinds.policies.stored key
  | .addProfileForPath files path _ =>
    ∀ executable, files.executable path true = .ok executable →
      kinds.policies.stored executable.profileKey
  | .removeProfile key => kinds.policies.asked key
  | _ => True

inductive Agreement (tasks : Table.Correspondence UInt32 ProcessState) :
    Resolution → Resolution → Prop where
  | passed {outcome : OpenOutcome} : Agreement tasks (.passed outcome) (.passed outcome)
  | called {routine : Routine} {context other : Context} (aligned : context.Aligned tasks other)
      (asked : tasks.asked context.process.pid)
      (fits : ∀ request ∈ routine.requests context, Context.Aligned.Fits tasks request) :
      Agreement tasks (.called routine context) (.called routine other)

variable {kinds : Correspondence} {first second : Engine}

namespace Alike

theorem enterOpen (alike : kinds.Alike first second) {task : Task} {flags : OpenFlags}
    (covers : kinds.Covers first (.event (.openEntry task flags)))
    (still : kinds.Allowed (first.enterOpen task flags).value.1
      (second.enterOpen task flags).value.1) :
    kinds.Agreed (first.enterOpen task flags).value (second.enterOpen task flags).value := by
  obtain ⟨asked, stored⟩ := covers
  have found := kinds.tasks.found alike.tracker.processes asked
  have lookup := kinds.tasks.lookup alike.tracker.processes asked
  cases present : first.processes.find? task.tid with
  | none =>
    rw [enterOpen_untracked present, enterOpen_untracked (found.trans present)] at still ⊢
    have processes := lookup still.tracker.processes
    exact ⟨{ alike with tracker := ⟨processes, alike.tracker.profiles⟩ }, rfl⟩
  | some record =>
    rw [enterOpen_tracked present, enterOpen_tracked (found.trans present)] at still ⊢
    have processes := lookup still.tracker.processes
    obtain ⟨slot, captured⟩ := alike.slot.capture (stored (by simp [present])) still.slot
    exact ⟨{ alike with tracker := ⟨processes, alike.tracker.profiles⟩, slot }, captured⟩

theorem left (alike : kinds.Alike first second) {task : Task} (asked : kinds.tasks.asked task.tid)
    (taken : kinds.captures.asked task.tid)
    (still : kinds.Allowed (first.left task) (second.left task)) :
    kinds.Alike (first.left task) (second.left task) :=
  { alike with
    tracker := ⟨kinds.tasks.lookup alike.tracker.processes asked still.tracker.processes,
      alike.tracker.profiles⟩
    slot := (alike.slot.take taken still.slot).1 }

theorem consulted (alike : kinds.Alike first second) {key : ProfileKey}
    (asked : kinds.policies.asked key)
    (still : kinds.Allowed (first.consulted key) (second.consulted key)) :
    kinds.Alike (first.consulted key) (second.consulted key) :=
  { alike with
    tracker := ⟨alike.tracker.processes,
      kinds.policies.lookup alike.tracker.profiles asked still.tracker.profiles⟩ }

theorem contextOf (alike : kinds.Alike first second) {task : Task}
    (asked : kinds.tasks.asked task.tid) (taken : kinds.captures.asked task.tid)
    (still : kinds.Allowed (first.left task) (second.left task)) (process : ProcessState)
    (profile : Profile) :
    (first.contextOf task process profile).Aligned kinds.tasks
      (second.contextOf task process profile) := by
  have flags := (alike.slot.take taken still.slot).2
  rw [Engine.contextOf, Engine.contextOf, flags, alike.reporter, alike.scriptRuns]
  exact .intro (kinds.tasks.lookup alike.tracker.processes asked still.tracker.processes)

theorem resolveOpen (alike : kinds.Alike first second) {task : Task}
    (covers : kinds.Covers first (.event (.openExit task)))
    (still : kinds.Allowed (first.resolveOpen task).value.1 (second.resolveOpen task).value.1) :
    kinds.Alike (first.resolveOpen task).value.1 (second.resolveOpen task).value.1 ∧
      Agreement kinds.tasks (first.resolveOpen task).value.2 (second.resolveOpen task).value.2 := by
  obtain ⟨asked, taken, own⟩ := covers
  have tracked := kinds.tasks.found alike.tracker.processes asked
  cases present : first.processes.find? task.tid with
  | none =>
    rw [resolveOpen_untracked present, resolveOpen_untracked (tracked.trans present)] at still ⊢
    exact ⟨alike.left asked taken still, .passed⟩
  | some process =>
    have again := tracked.trans present
    obtain ⟨pid, key, fits⟩ := own process present
    cases confined : process.isConfined with
    | false =>
      rw [resolveOpen_unconfined present confined, resolveOpen_unconfined again confined] at still ⊢
      exact ⟨alike.left asked taken still, .passed⟩
    | true =>
      have known := kinds.policies.found alike.tracker.profiles key
      have consulted : kinds.Allowed ((first.left task).consulted process.profileKey)
          ((second.left task).consulted process.profileKey) →
          kinds.Allowed (first.left task) (second.left task) ∧
            kinds.Alike ((first.left task).consulted process.profileKey)
              ((second.left task).consulted process.profileKey) := by
        intro still
        have early : kinds.Allowed (first.left task) (second.left task) :=
          ⟨⟨still.tracker.processes, kinds.policies.allowed_of_follows (Table.follows_lookup _ _)
            (Table.follows_lookup _ _) still.tracker.profiles⟩, still.slot⟩
        exact ⟨early, (alike.left asked taken early).consulted key still⟩
      cases loaded : first.profiles.find? process.profileKey with
      | none =>
        rw [resolveOpen_missing present confined loaded,
          resolveOpen_missing again confined (known.trans loaded)] at still ⊢
        exact ⟨(consulted still).2, .passed⟩
      | some profile =>
        have reloaded := known.trans loaded
        have routines := congrArg (DispatchTable.get? · profile.index) alike.dispatch
        cases registered : first.dispatch.get? profile.index with
        | none =>
          rw [resolveOpen_unregistered present confined loaded registered,
            resolveOpen_unregistered again confined reloaded (routines.trans registered)] at still ⊢
          exact ⟨(consulted still).2, .passed⟩
        | some routine =>
          rw [resolveOpen_registered present confined loaded registered,
            resolveOpen_registered again confined reloaded (routines.trans registered)] at still ⊢
          obtain ⟨early, consulted⟩ := consulted still
          exact ⟨consulted, .called (alike.contextOf asked taken early process profile) pid
            (fits profile routine confined loaded registered)⟩

/-- Once the routine of a caller is found, the tables of profiles and captures have no more part in its
exit. -/
theorem allowed_resolveOpen {task : Task}
    (still : kinds.Allowed (first.exitOpen task).value.1 (second.exitOpen task).value.1) :
    kinds.Allowed (first.resolveOpen task).value.1 (second.resolveOpen task).value.1 := by
  have resolving : ∀ engine : Engine,
      Table.Follows (engine.resolveOpen task).value.1.tracker.processes
          (engine.exitOpen task).value.1.tracker.processes ∧
        (engine.exitOpen task).value.1.tracker.profiles =
          (engine.resolveOpen task).value.1.tracker.profiles ∧
        (engine.exitOpen task).value.1.slot = (engine.resolveOpen task).value.1.slot := by
    intro engine
    have resolved := engine.resolved_resolveOpen task
    rw [value_exitOpen]
    generalize (engine.resolveOpen task).value = result at resolved
    cases resolved with
    | passed | consulted => exact ⟨.refl _, rfl, rfl⟩
    | @called process profile routine =>
      exact ⟨routine.follows_run (engine.contextOf task process profile), rfl, rfl⟩
  obtain ⟨follows, profiles, slot⟩ := resolving first
  obtain ⟨following, others, place⟩ := resolving second
  exact ⟨⟨kinds.tasks.allowed_of_follows follows following still.tracker.processes,
    profiles ▸ others ▸ still.tracker.profiles⟩, slot ▸ place ▸ still.slot⟩

theorem exitOpen (alike : kinds.Alike first second) {task : Task}
    (covers : kinds.Covers first (.event (.openExit task)))
    (still : kinds.Allowed (first.exitOpen task).value.1 (second.exitOpen task).value.1) :
    kinds.Agreed (first.exitOpen task).value (second.exitOpen task).value := by
  obtain ⟨resolved, same⟩ := alike.resolveOpen covers (allowed_resolveOpen still)
  rw [value_exitOpen, value_exitOpen] at still ⊢
  generalize (first.resolveOpen task).value = result at resolved same still
  generalize (second.resolveOpen task).value = other at resolved same still
  obtain ⟨later, resolution⟩ := result
  obtain ⟨others, resolution⟩ := other
  cases same with
  | passed => exact ⟨resolved, rfl⟩
  | called aligned asked fits =>
    obtain ⟨ran, report⟩ := aligned.run asked fits still.tracker.processes
    obtain ⟨_, _, profile⟩ := aligned.kept
    obtain ⟨reporter, verdict, _⟩ := ran.kept
    refine ⟨⟨⟨ran.related, resolved.tracker.profiles⟩, resolved.slot, resolved.dispatch, reporter, ?_⟩,
      congrArg₂ OpenOutcome.dispatched (congrArg Profile.index profile) verdict⟩
    exact congrArg₂ (fun runs report => runs ++ Option.toList report) resolved.scriptRuns report

/-! ### The loader -/

theorem addProfile (alike : kinds.Alike first second) {key : ProfileKey}
    (stored : kinds.policies.stored key) {index : UInt32}
    (still : kinds.Allowed (first.addProfile key index).value.1
      (second.addProfile key index).value.1) :
    kinds.Agreed (first.addProfile key index).value (second.addProfile key index).value := by
  cases reserved : key.isUnconfined with
  | true =>
    rw [addProfile_reserved reserved, addProfile_reserved reserved]
    exact ⟨alike, rfl⟩
  | false =>
    by_cases inside : index.toNat < first.dispatch.length
    · have again : index.toNat < second.dispatch.length := alike.dispatch ▸ inside
      rw [value_addProfile ⟨reserved, inside⟩, value_addProfile ⟨reserved, again⟩] at still ⊢
      obtain ⟨profiles, answer⟩ := kinds.policies.update alike.tracker.profiles stored ⟨key, index⟩
        still.tracker.profiles
      refine ⟨{ alike with tracker := ⟨alike.tracker.processes, profiles⟩ }, ?_⟩
      dsimp only [Engine.profiles]
      rw [answer]
      cases result : (first.tracker.profiles.update key ⟨key, index⟩).2 with
      | ok previous => rfl
      | error failure =>
        dsimp only
        rw [Table.name_update, Table.name_update,
          kinds.policies.named alike.tracker.profiles stored result]
    · have outside := Nat.not_lt.mp inside
      have again : second.dispatch.length ≤ index.toNat := alike.dispatch ▸ outside
      rw [addProfile_outside reserved outside, addProfile_outside reserved again, alike.dispatch]
      exact ⟨alike, rfl⟩

theorem addProfileForPath (alike : kinds.Alike first second) {files : Files} {path : String}
    {index : UInt32} (covers : kinds.Covers first (.addProfileForPath files path index))
    (still : kinds.Allowed (first.addProfileForPath files path index).value.1
      (second.addProfileForPath files path index).value.1) :
    kinds.Agreed (first.addProfileForPath files path index).value
      (second.addProfileForPath files path index).value := by
  unfold Engine.addProfileForPath at still ⊢
  cases identified : files.executable path true with
  | error error => exact ⟨alike, rfl⟩
  | ok executable =>
    rw [identified] at still
    exact alike.addProfile (covers executable identified) still

theorem registerRoutine (alike : kinds.Alike first second) (index : UInt32) (routine : Routine) :
    kinds.Agreed (first.registerRoutine index routine).value
      (second.registerRoutine index routine).value := by
  simp only [Engine.registerRoutine, Logged.value_bind, Logged.value_pure, alike.dispatch]
  exact ⟨{ alike with dispatch := rfl }, rfl⟩

theorem install (alike : kinds.Alike first second) {key : ProfileKey}
    (stored : kinds.policies.stored key) {index : UInt32} {routine : Routine}
    (still : kinds.Allowed (first.install key index routine).value.1
      (second.install key index routine).value.1) :
    kinds.Agreed (first.install key index routine).value (second.install key index routine).value := by
  obtain ⟨registered, answer⟩ := alike.registerRoutine index routine
  rw [Engine.install, Engine.install, Logged.value_bind, Logged.value_bind] at still ⊢
  dsimp only at still ⊢
  rw [answer] at still ⊢
  cases result : (first.registerRoutine index routine).value.2 with
  | error error => exact ⟨registered, rfl⟩
  | ok _ =>
    rw [result] at still
    exact registered.addProfile stored still

/-! ### Steps and runs -/

theorem handle (alike : kinds.Alike first second) {event : KernelEvent}
    (covers : kinds.Covers first (.event event))
    (still : kinds.Allowed (first.handle event).value.1 (second.handle event).value.1) :
    kinds.Agreed (first.handle event).value (second.handle event).value := by
  cases event with
  | processCreate parent child group =>
    obtain ⟨tracker, answer⟩ := alike.tracker.create covers.1 covers.2 still.tracker
    exact ⟨{ alike with tracker }, congrArg (Except.map Outcome.tracked) answer⟩
  | programLoad tid executable =>
    obtain ⟨tracker, answer⟩ := alike.tracker.load covers.1 covers.2 still.tracker
    exact ⟨{ alike with tracker }, congrArg (Except.ok ∘ Outcome.load) answer⟩
  | processExit tid =>
    obtain ⟨tracker, answer⟩ := alike.tracker.exit covers still.tracker
    exact ⟨{ alike with tracker },
      congrArg (fun removed => Except.ok (Outcome.exited (Option.isSome removed))) answer⟩
  | openEntry task flags =>
    obtain ⟨entered, answer⟩ := alike.enterOpen covers still
    exact ⟨entered, congrArg (Except.ok ∘ Outcome.captured) answer⟩
  | openExit task =>
    obtain ⟨left, answer⟩ := alike.exitOpen covers still
    exact ⟨left, congrArg (Except.ok ∘ Outcome.opened) answer⟩

theorem perform (alike : kinds.Alike first second) {operation : Operation}
    (covers : kinds.Covers first operation)
    (still : kinds.Allowed (first.next operation) (second.next operation)) :
    kinds.Agreed (first.perform operation).value (second.perform operation).value := by
  cases operation with
  | event event =>
    obtain ⟨handled, answer⟩ := alike.handle covers still
    exact ⟨handled, congrArg (Response.ofResult .outcome) answer⟩
  | addProfile key index =>
    obtain ⟨added, answer⟩ := alike.addProfile covers still
    exact ⟨added, congrArg (Response.ofResult .profile) answer⟩
  | addProfileForPath files path index =>
    obtain ⟨added, answer⟩ := alike.addProfileForPath covers still
    exact ⟨added, congrArg (Response.ofResult .profile) answer⟩
  | install key index routine =>
    obtain ⟨added, answer⟩ := alike.install covers still
    exact ⟨added, congrArg (Response.ofResult .profile) answer⟩
  | removeProfile key =>
    have profiles := kinds.policies.delete alike.tracker.profiles covers still.tracker.profiles
    have removed : (second.profiles.delete key).2 = (first.profiles.delete key).2 := by
      rw [Table.answer_delete, Table.answer_delete]
      exact kinds.policies.found alike.tracker.profiles covers
    exact ⟨{ alike with tracker := ⟨alike.tracker.processes, profiles⟩ },
      congrArg Response.removed removed⟩
  | registerRoutine index routine =>
    obtain ⟨registered, answer⟩ := alike.registerRoutine index routine
    exact ⟨registered, congrArg (Response.ofResult _) answer⟩
  | unregisterRoutine index =>
    simp only [Engine.perform, Engine.unregisterRoutine, Logged.value_bind, Logged.value_pure,
      alike.dispatch]
    exact ⟨{ alike with dispatch := rfl }, rfl⟩
  | setMode mode =>
    have reporter := congrArg (fun reporter => (Reporter.setMode reporter mode).value) alike.reporter
    exact ⟨{ alike with reporter }, congrArg (Response.mode ∘ Reporter.mode) reporter⟩
  | drain channel =>
    have reporter := congrArg (fun reporter : Reporter =>
      { reporter with bus := (reporter.bus.drain channel).1 }) alike.reporter
    have events := congrArg (fun reporter => (Bus.drain reporter.bus channel).2) alike.reporter
    exact ⟨{ alike with reporter }, congrArg Response.events events⟩

end Alike

theorem Alike.sound (alike : kinds.Alike first second) : first.Sound ∧ second.Sound := by
  obtain ⟨tasks, others⟩ := kinds.tasks.bounded alike.tracker.processes
  obtain ⟨profiles, again⟩ := kinds.policies.bounded alike.tracker.profiles
  exact ⟨⟨tasks, profiles⟩, others, again⟩

theorem Allowed.of_after (sound : first.Sound) (other : second.Sound) {operations : List Operation}
    (still : kinds.Allowed (first.after operations) (second.after operations)) :
    kinds.Allowed first second :=
  ⟨⟨kinds.tasks.allowed_of_follows (follows_processes_after sound operations)
      (follows_processes_after other operations) still.tracker.processes,
    kinds.policies.allowed_of_follows (follows_profiles_after sound operations)
      (follows_profiles_after other operations) still.tracker.profiles⟩,
    still.slot.of_follows (first.follows_slot_after operations)
      (second.follows_slot_after operations)⟩

/-- Engines alike stay so, and give the same answers, however long they run. -/
theorem Alike.run {required : Routine → Prop} (alike : kinds.Alike first second)
    {operations : List Operation} (each : first.dispatch.Each required)
    (registers : ∀ operation ∈ operations, operation.Registers required)
    (covers : ∀ first second, kinds.Alike first second → first.dispatch.Each required →
      ∀ operation ∈ operations, kinds.Covers first operation)
    (still : kinds.Allowed (first.after operations) (second.after operations)) :
    kinds.Agreed (first.run operations).value (second.run operations).value := by
  induction operations generalizing first second with
  | nil => exact ⟨alike, rfl⟩
  | cons operation rest ih =>
    obtain ⟨sound, other⟩ := alike.sound
    have early := Allowed.of_after (sound.next operation) (other.next operation) still
    have covered := covers first second alike each operation List.mem_cons_self
    obtain ⟨next, answer⟩ := alike.perform covered early
    obtain ⟨named, registers⟩ := List.forall_mem_cons.mp registers
    obtain ⟨later, answers⟩ := ih next (each_next each named) registers
      (fun first second alike each other member =>
        covers first second alike each other (List.mem_cons_of_mem _ member)) still
    exact ⟨later, congrArg₂ List.cons answer answers⟩

end Correspondence

end Engine

end Confinement
