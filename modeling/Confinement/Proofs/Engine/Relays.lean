import Confinement.Engine.Outline
import Confinement.Proofs.Engine.Captures
import Confinement.Proofs.Engine.Reachable
import Confinement.Proofs.Engine.Refusals

/-! A place for each thread and one place for all, side by side.

The two differ only in what an exit finds. If each exit comes right after the entry of the same thread, then
both places hand it the arguments of that entry, whatever older captures are left in either of them. The
arguments of a tracked caller are never lost on the way, for where there is room for its record there is room
for them.
-/

set_option autoImplicit false

namespace Confinement

def Config.withSlot (config : Config) (slot : SlotMode) : Config :=
  { config with openArgsSlot := slot }

/-- Whether each exit of an open call comes right after an entry of the same thread, as far as events go. At
the start, the last event was the entry of the thread that is given, if any. -/
def bracketed : Option UInt32 → List Operation → Bool
  | _, [] => true
  | entered, .event (.openExit task) :: rest => entered = some task.tid && bracketed none rest
  | _, .event (.openEntry task _) :: rest => bracketed (some task.tid) rest
  | _, .event _ :: rest => bracketed none rest
  | entered, _ :: rest => bracketed entered rest

namespace Engine

variable {engine first second : Engine} {operation : Operation} {task : Task} {flags : OpenFlags}
  {tid : UInt32}

/-! ## What does not depend on the place -/

def relaying (engine : Engine) (config : Config) (slot : OpenSlot) : Engine :=
  { engine with config, slot }

theorem addProfile_relaying (engine : Engine) (config : Config) (slot : OpenSlot) (key : ProfileKey)
    (index : UInt32) :
    ((engine.relaying config slot).addProfile key index).value =
      ((engine.addProfile key index).value.1.relaying config slot,
        (engine.addProfile key index).value.2) := by
  unfold addProfile relaying profiles
  dsimp only
  split
  · rfl
  · split
    · rfl
    · simp only [Logged.value_bind, Table.value_put]
      split
      · rfl
      · rfl

theorem addProfileForPath_relaying (engine : Engine) (config : Config) (slot : OpenSlot)
    (files : Files) (path : String) (index : UInt32) :
    ((engine.relaying config slot).addProfileForPath files path index).value =
      ((engine.addProfileForPath files path index).value.1.relaying config slot,
        (engine.addProfileForPath files path index).value.2) := by
  unfold addProfileForPath
  cases files.executable path true with
  | error error => rfl
  | ok executable => exact addProfile_relaying engine config slot executable.profileKey index

theorem install_relaying (engine : Engine) (config : Config) (slot : OpenSlot) (key : ProfileKey)
    (index : UInt32) (routine : Routine) :
    ((engine.relaying config slot).install key index routine).value =
      ((engine.install key index routine).value.1.relaying config slot,
        (engine.install key index routine).value.2) := by
  by_cases inside : index.toNat < engine.dispatch.length
  · have again : index.toNat < (engine.relaying config slot).dispatch.length := inside
    rw [install_inside inside, install_inside again]
    exact addProfile_relaying (engine.withRoutine index routine) config slot key index
  · have outside := Nat.not_lt.mp inside
    have again : (engine.relaying config slot).dispatch.length ≤ index.toNat := outside
    rw [install_outside outside, install_outside again]
    rfl

theorem perform_relaying (engine : Engine) (config : Config) (slot : OpenSlot)
    (enters : ∀ task flags, operation ≠ .event (.openEntry task flags))
    (leaves : ∀ task, operation ≠ .event (.openExit task)) :
    ((engine.relaying config slot).perform operation).value =
      ((engine.next operation).relaying config slot, (engine.perform operation).value.2) := by
  cases operation with
  | event event =>
    cases event with
    | openEntry task flags => exact absurd rfl (enters task flags)
    | openExit task => exact absurd rfl (leaves task)
    | _ => rfl
  | addProfile key index =>
    exact congrArg (Prod.map id (Response.ofResult .profile))
      (addProfile_relaying engine config slot key index)
  | addProfileForPath files path index =>
    exact congrArg (Prod.map id (Response.ofResult .profile))
      (addProfileForPath_relaying engine config slot files path index)
  | install key index routine =>
    exact congrArg (Prod.map id (Response.ofResult .profile))
      (install_relaying engine config slot key index routine)
  | _ => rfl

def Agrees (engine : Engine) (slot : OpenSlot) (tid : UInt32) : Prop :=
  engine.processes.find? tid = none ∨ slot.waiting? tid = engine.slot.waiting? tid

/-- Nothing depends on the place but the arguments that a tracked caller finds there. -/
theorem resolveOpen_relaying (config : Config) {slot : OpenSlot} (agrees : engine.Agrees slot task.tid) :
    ((engine.relaying config slot).resolveOpen task).value =
      ((engine.resolveOpen task).value.1.relaying config (slot.take task.tid).1,
        (engine.resolveOpen task).value.2) := by
  cases present : engine.processes.find? task.tid with
  | none =>
    have again : (engine.relaying config slot).processes.find? task.tid = none := present
    rw [resolveOpen_untracked present, resolveOpen_untracked again]
    rfl
  | some process =>
    have again : (engine.relaying config slot).processes.find? task.tid = some process := present
    have found : (slot.take task.tid).2 = (engine.slot.take task.tid).2 :=
      agrees.resolve_left (by simp [present])
    cases confined : process.isConfined with
    | false =>
      rw [resolveOpen_unconfined present confined, resolveOpen_unconfined again confined]
      rfl
    | true =>
      cases loaded : engine.profiles.find? process.profileKey with
      | none =>
        have reloaded : (engine.relaying config slot).profiles.find? process.profileKey = none := loaded
        rw [resolveOpen_missing present confined loaded, resolveOpen_missing again confined reloaded]
        rfl
      | some profile =>
        have reloaded : (engine.relaying config slot).profiles.find? process.profileKey =
          some profile := loaded
        cases registered : engine.dispatch.get? profile.index with
        | none =>
          rw [resolveOpen_unregistered present confined loaded registered,
            resolveOpen_unregistered again confined reloaded registered]
          rfl
        | some routine =>
          have context : (engine.relaying config slot).contextOf task process profile =
              engine.contextOf task process profile := by
            rw [contextOf, relaying, found]
            rfl
          rw [resolveOpen_registered present confined loaded registered,
            resolveOpen_registered again confined reloaded registered, context]
          rfl

theorem exitOpen_relaying (config : Config) {slot : OpenSlot} (agrees : engine.Agrees slot task.tid) :
    ((engine.relaying config slot).exitOpen task).value =
      ((engine.exitOpen task).value.1.relaying config (slot.take task.tid).1,
        (engine.exitOpen task).value.2) := by
  rw [value_exitOpen, value_exitOpen, resolveOpen_relaying config agrees]
  generalize (engine.resolveOpen task).value = result
  obtain ⟨later, resolution⟩ := result
  cases resolution with
  | passed outcome => rfl
  | called routine context => rfl

/-! ## Entries -/

/-- Where the record of a task has room, the arguments that it passes have room as well. -/
theorem Reachable.captured (reachable : engine.Reachable) (threaded : engine.slot.mode = .perThread)
    {record : ProcessState} (present : engine.processes.find? tid = some record)
    (flags : OpenFlags) :
    (engine.slot.capture tid flags).value.2 = true ∧
      (engine.slot.capture tid flags).value.1.waiting? tid = some flags := by
  have some : 1 ≤ engine.config.maxProcesses := by
    refine Nat.one_le_iff_ne_zero.mpr fun none => ?_
    rw [reachable.untracked none] at present
    cases present
  obtain ⟨assignments, _, _, follows⟩ := reachable.origins
  have linked := reachable.linked.captures
  generalize engine.slot = slot at threaded follows linked ⊢
  cases slot with
  | shared => cases threaded
  | perThread table =>
    cases mode : engine.config.openArgsSlot with
    | shared =>
      rw [mode] at follows
      cases follows
    | perThread =>
      rw [mode] at follows
      cases follows with
      | perThread follows =>
        obtain ⟨previous, taken⟩ := follows.update_ok some tid flags
        have bounded : table.Bounded := Table.bounded_of_linked (linked table rfl)
        have updated := Table.updated_update bounded tid flags
        rw [taken] at updated
        rw [OpenSlot.value_capture_perThread, taken, OpenSlot.waiting?_perThread]
        exact ⟨rfl, updated.stored⟩

/-- An entry is answered alike with a place for each thread and with one place for all, and then the exit of
the thread finds the same in both. -/
theorem enterOpen_relaying (reachable : engine.Reachable) (threaded : engine.slot.mode = .perThread)
    (config : Config) (cell : Option OpenFlags) (task : Task) (flags : OpenFlags) :
    ∃ later, ((engine.relaying config (.shared cell)).enterOpen task flags).value =
        ((engine.enterOpen task flags).value.1.relaying config (.shared later),
          (engine.enterOpen task flags).value.2) ∧
      (engine.enterOpen task flags).value.1.Agrees (.shared later) task.tid := by
  have looked := reachable.linked.sound.tasks.find?_lookup task.tid task.tid
  cases present : engine.processes.find? task.tid with
  | none =>
    have again : (engine.relaying config (.shared cell)).processes.find? task.tid = none := present
    rw [enterOpen_untracked present, enterOpen_untracked again]
    exact ⟨cell, rfl, .inl (looked.trans present)⟩
  | some record =>
    have again : (engine.relaying config (.shared cell)).processes.find? task.tid = some record := present
    obtain ⟨captured, waiting⟩ := reachable.captured threaded present flags
    rw [enterOpen_tracked present, enterOpen_tracked again, captured]
    exact ⟨some flags, rfl, .inr waiting.symm⟩

/-! ## Runs -/

/-- The engines are in the same state, but that one has a place for each thread and the other one place for
all. -/
inductive Relays : Engine → Engine → Prop where
  | intro {engine : Engine} (reachable : engine.Reachable) (threaded : engine.slot.mode = .perThread)
      (config : Config) (cell : Option OpenFlags) :
      Relays engine (engine.relaying config (.shared cell))

structure Relayed (first second : Engine) (operation : Operation) : Prop where
  engines : (first.next operation).Relays (second.next operation)
  answers : (second.perform operation).value.2 = (first.perform operation).value.2

namespace Relays

theorem relayed (reachable : engine.Reachable) (threaded : engine.slot.mode = .perThread)
    {config : Config} {cell later : Option OpenFlags}
    (performed : ((engine.relaying config (.shared cell)).perform operation).value =
      ((engine.next operation).relaying config (.shared later), (engine.perform operation).value.2)) :
    engine.Relayed (engine.relaying config (.shared cell)) operation := by
  have mode := (engine.follows_slot operation).mode.trans threaded
  constructor
  · rw [next, next, performed]
    exact .intro (reachable.next operation) mode config later
  · rw [performed]

theorem quiet (relays : first.Relays second)
    (enters : ∀ task flags, operation ≠ .event (.openEntry task flags))
    (leaves : ∀ task, operation ≠ .event (.openExit task)) : first.Relayed second operation := by
  obtain ⟨reachable, threaded, config, cell⟩ := relays
  exact relayed reachable threaded (perform_relaying _ config (.shared cell) enters leaves)

theorem entry (relays : first.Relays second) (task : Task) (flags : OpenFlags) :
    first.Relayed second (.event (.openEntry task flags)) ∧
      (first.next (.event (.openEntry task flags))).Agrees
        (second.next (.event (.openEntry task flags))).slot task.tid := by
  obtain ⟨reachable, threaded, config, cell⟩ := relays
  obtain ⟨later, entered, agrees⟩ := enterOpen_relaying reachable threaded config cell task flags
  have performed := congrArg (Prod.map id fun captured => Response.outcome (.captured captured)) entered
  refine ⟨relayed reachable threaded performed, ?_⟩
  have slot := congrArg (fun result : Engine × Bool => result.1.slot) entered
  exact slot ▸ agrees

theorem exit (relays : first.Relays second) {task : Task} (agrees : first.Agrees second.slot task.tid) :
    first.Relayed second (.event (.openExit task)) := by
  obtain ⟨reachable, threaded, config, cell⟩ := relays
  have left := exitOpen_relaying config agrees
  exact relayed reachable threaded
    (congrArg (Prod.map id fun outcome => Response.outcome (.opened outcome)) left)

/-- Operations that are no events leave what an exit of a thread would find. -/
theorem agrees_next (agrees : first.Agrees second.slot tid) (outside : operation.isEvent = false) :
    (first.next operation).Agrees (second.next operation).slot tid := by
  have enters : ∀ task flags, operation ≠ .event (.openEntry task flags) := by
    rintro task flags rfl
    cases outside
  have leaves : ∀ task, operation ≠ .event (.openExit task) := by
    rintro task rfl
    cases outside
  rw [Agrees, processes_next first outside, slot_next enters leaves, slot_next enters leaves]
  exact agrees

/-- Where every exit comes right after an entry of the same thread, the two engines never come apart. -/
theorem run (relays : first.Relays second) {operations : List Operation} {entered : Option UInt32}
    (brackets : bracketed entered operations = true)
    (agrees : ∀ tid, entered = some tid → first.Agrees second.slot tid) :
    (first.after operations).Relays (second.after operations) ∧
      (second.run operations).value.2 = (first.run operations).value.2 := by
  induction operations generalizing first second entered with
  | nil => exact ⟨relays, rfl⟩
  | cons operation rest ih =>
    have go : ∀ {entered}, first.Relayed second operation → bracketed entered rest = true →
        (∀ tid, entered = some tid → (first.next operation).Agrees (second.next operation).slot tid) →
        (first.after (operation :: rest)).Relays (second.after (operation :: rest)) ∧
          (second.run (operation :: rest)).value.2 = (first.run (operation :: rest)).value.2 := by
      intro entered relayed brackets agrees
      obtain ⟨later, answers⟩ := ih relayed.engines brackets agrees
      exact ⟨later, congrArg₂ List.cons relayed.answers answers⟩
    cases outside : operation.isEvent with
    | false =>
      have relayed : first.Relayed second operation := by
        refine relays.quiet ?_ ?_
        · rintro task flags rfl
          cases outside
        · rintro task rfl
          cases outside
      have brackets : bracketed entered rest = true := by
        cases operation with
        | event => cases outside
        | _ => exact brackets
      exact go relayed brackets fun tid last => agrees_next (agrees tid last) outside
    | true =>
      cases operation with
      | event event =>
        cases event with
        | openEntry task flags =>
          obtain ⟨relayed, found⟩ := relays.entry task flags
          refine go relayed brackets fun tid last => ?_
          rwa [← Option.some.inj last]
        | openExit task =>
          obtain ⟨last, brackets⟩ := (Bool.and_eq_true _ _).mp brackets
          exact go (relays.exit (agrees task.tid (of_decide_eq_true last))) brackets nofun
        | _ => exact go (relays.quiet nofun nofun) brackets nofun
      | _ => cases outside

end Relays

structure Same (first second : Engine) : Prop where
  tracker : second.tracker = first.tracker
  dispatch : second.dispatch = first.dispatch
  reporter : second.reporter = first.reporter
  scriptRuns : second.scriptRuns = first.scriptRuns
  stats : second.stats = first.stats

theorem Relays.same (relays : first.Relays second) : first.Same second := by
  obtain ⟨_, _, config, cell⟩ := relays
  exact ⟨rfl, rfl, rfl, rfl, rfl⟩

theorem relays_initial {config : Config} (valid : config.validate = .ok ()) (terminator : Terminator)
    (assignments : Assignments) (openArgs : UInt32 → UInt64) :
    (initial (config.withSlot .perThread) terminator assignments).Relays
      (initial (config.withSlot .shared) terminator { assignments with openArgs }) :=
  have own : (config.withSlot .perThread).validate = .ok () := valid
  .intro (reachable_initial own terminator assignments) rfl (config.withSlot .shared) none

end Engine

end Confinement
